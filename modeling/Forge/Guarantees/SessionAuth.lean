import Forge.Source.AuthProvider
import Forge.Guarantees.RegistryPrecedence

/-!
# Which credentials BuildKit gets

`BuildAndPush` configures the BuildKit client with `generateRegistryFunc` of
the registries `generateBuildOptions` derived from the spec. Both roads by
which credentials reach BuildKit then serve, for a host, the configuration the
spec's precedence rule gives (`expectedConfig`), but not for the same host:

* the session auth provider answers a request for `registry-1.docker.io`
  with the configuration of `https://index.docker.io/v1/`;
* the registry hosts send a `docker.io` reference to `registry-1.docker.io`
  and ask the configuration of that host, while the plain-HTTP match is asked
  about `docker.io` itself.

So a spec entry for `registry-1.docker.io` reaches pushes and never the
session, and one for `https://index.docker.io/v1/` the reverse
(`builder_serves_spec_credentials`).

The session's token authority keeps one seed per host for the whole session:
a public key `GetTokenAuthority` returns and a signature
`VerifyTokenAuthority` makes for the same host and salt come from one private
key, in whatever order the requests arrive; for a host without a secret that
key does not depend on the seed at all (`token_authority_agrees`).
-/

namespace Forge.Guarantees.SessionAuth
open Forge.Source.Api Forge.Source.BuildJob Forge.Source.AuthProvider Forge.Lib.Maps
  Forge.Guarantees.RegistryPrecedence

/-! ## Credentials -/

/-- The credentials a configuration gives; no configuration gives empty
ones. -/
def credsOf : Option RegistryConfig → String × String
  | some config => (config.username, config.password)
  | none => ("", "")

/-- What the client serves for a host, against what the spec's precedence
rule gives `expected` hosts. -/
structure ServesSpec (expected : String → Option RegistryConfig) (hosts : Hosts) (host : String) : Prop where
  /-- the session provider's answer, after its Docker Hub rewrite -/
  session : credentials hosts.hostCredentials host =
    .ok (credsOf (expected (if host = "registry-1.docker.io" then "https://index.docker.io/v1/" else host)))
  /-- the registry host of a reference to `host`, with the scheme of `host`
  and the credentials of the host its requests go to -/
  registry : ∃ registryHost, hosts.registryHosts host = .ok [registryHost] ∧
    registryHost.host = (if host = "docker.io" then "registry-1.docker.io" else host) ∧
    registryHost.scheme = (if (expected host).any (·.nonSSL) then "http" else "https") ∧
    registryHost.credentials = some (.ok (credsOf (expected registryHost.host)))

theorem keyedBy_configureRegistries {sources : CredentialSources} {regs : List Registry}
    {configured : Configured} (success : configureRegistries sources regs = .ok configured) :
    KeyedBy RegistryConfig.host configured := fun h config found => by
  rw [lookup_configureRegistries success] at found
  exact host_of_expectedConfig found

/-- The host map of the generated options holds, for each host, the
configuration the precedence rule gives it. -/
theorem lookup_hostMap_generated {sources : CredentialSources} {cib : ContainerImageBuild}
    {opts : BuildOptions} (generated : generateBuildOptions sources cib = .ok opts) (h : String) :
    (hostMap opts.registries).lookup h = expectedConfig sources cib.spec.registries h := by
  unfold generateBuildOptions at generated
  cases built : buildRegistryConfigs sources cib.spec.registries with
  | error err => simp [built] at generated
  | ok registries =>
    simp only [built, Except.ok.injEq] at generated
    subst generated
    unfold buildRegistryConfigs at built
    cases looped : configureRegistries sources cib.spec.registries with
    | error err => simp [looped, Except.map] at built
    | ok configured =>
      simp only [looped, Except.map, Except.ok.injEq] at built
      subst built
      have rebuilt := lookup_assignAll_keyed RegistryConfig.host (keyedBy_configureRegistries looped) ∅ h
      rw [AList.lookup_empty, Option.or_none, lookup_configureRegistries looped] at rebuilt
      rw [hostMap, List.map_map]
      exact rebuilt

theorem generateRegistryFunc_lookup (registries : List RegistryConfig) (h : String) :
    (generateRegistryFunc registries).1 h = .ok (credsOf ((hostMap registries).lookup h)) ∧
      (generateRegistryFunc registries).2 h = .ok (((hostMap registries).lookup h).any (·.nonSSL)) := by
  cases found : (hostMap registries).lookup h <;> simp [generateRegistryFunc, found, credsOf]

/-- For every spec whose options `generateBuildOptions` derives, the client
`BuildAndPush` configures serves every host what the spec's precedence rule
gives it, by the session with the Docker Hub rewrite and by the registry
hosts with the `docker.io` one. -/
theorem builder_serves_spec_credentials {sources : CredentialSources} {cib : ContainerImageBuild}
    {opts : BuildOptions} (generated : generateBuildOptions sources cib = .ok opts) (host : String) :
    ServesSpec (expectedConfig sources cib.spec.registries) (hostsFor opts.registries) host := by
  have answers : ∀ h, (generateRegistryFunc opts.registries).1 h =
        .ok (credsOf (expectedConfig sources cib.spec.registries h)) ∧
      (generateRegistryFunc opts.registries).2 h =
        .ok ((expectedConfig sources cib.spec.registries h).any (·.nonSSL)) := by
    intro h
    rw [← lookup_hostMap_generated generated h]
    exact generateRegistryFunc_lookup opts.registries h
  refine ⟨?_, ?_⟩
  · -- the session asks the credentials function about the rewritten host
    simp only [credentials, hostsFor, configureHosts]
    rw [(answers _).1]
  · refine ⟨⟨some (generateRegistryFunc opts.registries).1,
      if host = "docker.io" then "registry-1.docker.io" else host,
      if (expectedConfig sources cib.spec.registries host).any (·.nonSSL) then "http" else "https"⟩,
      ?_, rfl, rfl, ?_⟩
    · simp only [hostsFor, configureHosts, configureDefaultRegistries, (answers host).2]
      rfl
    · simp only [RegistryHost.credentials, Option.map_some]
      rw [(answers _).1]

def hubBuild : ContainerImageBuild where
  metadata := ⟨"build", "default", ∅, ∅, 0,
    "/apis/forge.dominodatalab.com/v1alpha1/namespaces/default/containerimagebuilds/build/status"⟩
  spec := ⟨"team/app", "https://ctx.example/app.tgz", 0, ["docker.io"],
    [⟨"registry-1.docker.io", false, ⟨"hubuser", "hubpass", "", ""⟩, false⟩], [], ∅, "", "",
    ⟨∅, ∅⟩, 0, 0, ∅, false, false, "", []⟩
  status := ⟨.unset, .unset, [], 0, "", none, none⟩

def noSources : CredentialSources := ⟨fun _ _ => .error "not found", .error "no dynamic credentials"⟩

theorem hub_credentials_reach_pushes_only :
    ∃ opts, generateBuildOptions noSources hubBuild = .ok opts ∧
      ServesSpec (expectedConfig noSources hubBuild.spec.registries) (hostsFor opts.registries)
        "registry-1.docker.io" := by
  obtain ⟨opts, generated⟩ : ∃ opts, generateBuildOptions noSources hubBuild = .ok opts := ⟨_, rfl⟩
  exact ⟨opts, generated, builder_serves_spec_credentials generated "registry-1.docker.io"⟩

/-! ## The token authority -/

theorem forall₂_getElem? {α β : Type} {R : α → β → Prop} :
    ∀ {l₁ : List α} {l₂ : List β}, List.Forall₂ R l₁ l₂ →
      ∀ {i : Nat} {a : α} {b : β}, l₁[i]? = some a → l₂[i]? = some b → R a b
  | _, _, .nil, _, _, _, first, _ => by simp at first
  | _, _, .cons related _, 0, _, _, first, second => by
    simp only [List.getElem?_cons_zero, Option.some.injEq] at first second
    subst first second
    exact related
  | _, _, .cons _ rest, i + 1, _, _, first, second => by
    simp only [List.getElem?_cons_succ] at first second
    exact forall₂_getElem? rest first second

/-- In every run of a session's provider, from any seeds, a public key
`GetTokenAuthority` returns and a signature `VerifyTokenAuthority` makes for
the same host and salt come from one private key, the key of the host's
credentials; when the host has no secret, that key is the HMAC of the salt
alone. -/
theorem token_authority_agrees (session : Session) (ts : Seeds) (requests : List Request)
    {final : Seeds} {responses : List (Except String Response)}
    (run : serveAll session ts requests = (final, responses)) {i j : Nat} {host : String}
    {salt payload publicKey signature : List UInt8}
    (asked : requests[i]? = some (.getTokenAuthority host salt))
    (published : responses[i]? = some (.ok (.publicKey publicKey)))
    (toSign : requests[j]? = some (.verifyTokenAuthority host salt payload))
    (signed : responses[j]? = some (.ok (.signed signature))) :
    ∃ username secret key, credentials session.credFn host = .ok (username, secret) ∧
      publicKey = key.drop 32 ∧ signature = session.crypto.sign key payload ∧
      (secret = "" → key = session.crypto.newKeyFromSeed ((session.crypto.hmacSum salt []).take 32)) := by
  obtain ⟨-, answered⟩ := serveAll_spec session ts requests
  rw [run] at answered
  obtain ⟨username, secret, seed, credentialed, seeded, publicHalf⟩ :=
    forall₂_getElem? answered asked published _ rfl
  obtain ⟨username', secret', seed', credentialed', seeded', signature'⟩ :=
    forall₂_getElem? answered toSign signed _ rfl
  have sameCreds : (username', secret') = (username, secret) :=
    Except.ok.inj (credentialed'.symm.trans credentialed)
  have sameSeed : seed' = seed := Option.some.inj (seeded'.symm.trans seeded)
  rw [(Prod.mk.inj sameCreds).2, sameSeed] at signature'
  refine ⟨username, secret, authorityKey session.crypto secret seed salt, credentialed,
    Response.publicKey.inj publicHalf, Response.signed.inj signature', fun anonymous => ?_⟩
  simp [authorityKey, anonymous]

/-- A session whose credentials function knows one registry, with stand-in
key material: the `n`-th random seed is `[n]`, and a key is 32 zero bytes
before its seed. -/
def sampleSession : Session where
  server := ⟨fun _ => .error (.other "unreachable"), fun _ => .error (.other "unreachable")⟩
  crypto := ⟨fun n => .ok [n.toUInt8], fun key message => key ++ message,
    fun seed => List.replicate 32 0 ++ seed, fun key payload => key ++ payload⟩
  noClientToken := ""
  credFn := fun host => if host = "registry.example" then .ok ("user", "pass") else .ok ("", "")

def signThenPublish : List Request :=
  [.verifyTokenAuthority "registry.example" [1] [7], .getTokenAuthority "registry.example" [1]]

theorem signed_before_published_agree :
    ∃ final, serveAll sampleSession newSeeds signThenPublish =
        (final, [.ok (.signed (List.replicate 32 0 ++ [1, 0, 7])), .ok (.publicKey [1, 0])]) ∧
      signThenPublish[1]? = some (.getTokenAuthority "registry.example" [1]) ∧
      signThenPublish[0]? = some (.verifyTokenAuthority "registry.example" [1] [7]) ∧
      ∃ username secret key, credentials sampleSession.credFn "registry.example" = .ok (username, secret) ∧
        [1, 0] = key.drop 32 ∧ List.replicate 32 0 ++ [1, 0, 7] = sampleSession.crypto.sign key [7] ∧
        (secret = "" → key = sampleSession.crypto.newKeyFromSeed ((sampleSession.crypto.hmacSum [1] []).take 32)) := by
  obtain ⟨final, run⟩ : ∃ final, serveAll sampleSession newSeeds signThenPublish =
      (final, [.ok (.signed (List.replicate 32 0 ++ [1, 0, 7])), .ok (.publicKey [1, 0])]) := ⟨_, rfl⟩
  have asked : signThenPublish[1]? = some (.getTokenAuthority "registry.example" [1]) := rfl
  have toSign : signThenPublish[0]? = some (.verifyTokenAuthority "registry.example" [1] [7]) := rfl
  exact ⟨final, run, asked, toSign,
    token_authority_agrees sampleSession newSeeds signThenPublish run asked rfl toSign rfl⟩

end Forge.Guarantees.SessionAuth
