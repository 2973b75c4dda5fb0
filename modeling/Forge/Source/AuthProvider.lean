import Forge.Source.BuildJob
import Forge.Lib.Maps

/-!
# Registry hosts and the session auth provider

Source: `internal/builder/embedded/util.go` (`generateRegistryFunc`),
`internal/builder/embedded/bkimage/hosts.go` (`ConfigureHosts`,
`ResetHostConfigurations`), `internal/builder/embedded/bkimage/authprovider.go`
(`dynamicAuthProvider`: `credentials`, `FetchToken`, `getAuthorityKey`,
`GetTokenAuthority`, `VerifyTokenAuthority`, `tokenSeeds.getSeed`), and the
vendored `containerd/remotes/docker` host configuration
(`ConfigureDefaultRegistries`, and the authorizer's call of its credentials
function on the registry host).

Credentials reach BuildKit by two roads. The client's registry hosts carry an
authorizer that asks `hostCredentials` about the host a request goes to, for
`docker.io` the host `registry-1.docker.io`; they serve pushes and the
registry cache. A session's `dynamicAuthProvider` answers BuildKit's
credential requests, and asks about `https://index.docker.io/v1/` in place of
`registry-1.docker.io`.

The token server, `crypto/rand`, HMAC-SHA256, the ed25519 key derivation and
signing are oracles. A session gets a new provider, with no seeds. The
provider's seeds sit under a mutex, so concurrent requests of a session act
on them one after another: a run is a list of requests in the order they take
the lock.

In `FetchToken` the call deferred for an authenticated fetch assigns the
variable `err` that `ap.credentials` returned; it is not a result of
`FetchToken`, so the wrap never reaches the caller, and the model returns the
errors unwrapped.
-/

namespace Forge.Source.AuthProvider
open Forge.Source.BuildJob Forge.Lib.Maps Forge.Lib.Strings

/-! ## Registry hosts -/

/-- `bkimage.CredentialsFn`: a username and a password for a host. -/
abbrev CredentialsFn := String → Except String (String × String)

abbrev TLSEnabledFn := String → Except String Bool

/-- The map `generateRegistryFunc` builds: each registry by its host, a later
one replacing an earlier one of the same host. -/
def hostMap (registries : List RegistryConfig) : AList fun _ : String => RegistryConfig :=
  assignAll (registries.map fun reg => ⟨reg.host, reg⟩) ∅

/-- `generateRegistryFunc`: the credentials function and the plain-HTTP
match of a list of registries. -/
def generateRegistryFunc (registries : List RegistryConfig) : CredentialsFn × TLSEnabledFn :=
  let rHostMap := hostMap registries
  (fun host => match rHostMap.lookup host with
    | some reg => .ok (reg.username, reg.password)
    | none => .ok ("", ""),
   fun host => match rHostMap.lookup host with
    | some reg => .ok reg.nonSSL
    | none => .ok false)

/-- `docker.RegistryHost`: the authorizer's credentials function, the host
requests go to, and the scheme. -/
structure RegistryHost where
  authorizer : Option CredentialsFn
  host : String
  scheme : String

abbrev RegistryHosts := String → Except String (List RegistryHost)

/-- `docker.ConfigureDefaultRegistries` with the options forge passes: the
plain-HTTP match is asked about the host as given, and `docker.io` requests
go to `registry-1.docker.io`. -/
def configureDefaultRegistries (authorizer : Option CredentialsFn) (plainHTTP : Option TLSEnabledFn) :
    RegistryHosts := fun host =>
  let scheme : Except String String :=
    match plainHTTP with
    | none => .ok "https"
    | some isPlain => (isPlain host).map fun plain => if plain then "http" else "https"
  scheme.map fun scheme => [⟨authorizer, if host = "docker.io" then "registry-1.docker.io" else host, scheme⟩]

/-- The dynamic elements of `bkimage.Client`. -/
structure Hosts where
  registryHosts : RegistryHosts
  hostCredentials : CredentialsFn

def resetHostConfigurations : Hosts where
  registryHosts := configureDefaultRegistries none none
  hostCredentials := fun _ => .ok ("", "")

def configureHosts (hostCredentials : CredentialsFn) (matchNonSSL : TLSEnabledFn) : Hosts where
  registryHosts := configureDefaultRegistries (some hostCredentials) (some matchNonSSL)
  hostCredentials := hostCredentials

/-- What the authorizer of a registry host asks its credentials function
for: the credentials of the host requests go to. -/
def RegistryHost.credentials (h : RegistryHost) : Option (Except String (String × String)) :=
  h.authorizer.map (· h.host)

/-! ## The session auth provider -/

def credentials (credFn : CredentialsFn) (host : String) : Except String (String × String) :=
  let host := if host = "registry-1.docker.io" then "https://index.docker.io/v1/" else host
  match credFn host with
  | .error err => .error ("credential fetch failed for " ++ quote host ++ ": " ++ err)
  | .ok creds => .ok creds

/-- `auth.FetchTokenRequest`: the fields `FetchToken` reads. -/
structure FetchTokenRequest where
  host : String
  realm : String
  service : String
  scopes : List String

structure TokenOptions where
  realm : String
  service : String
  scopes : List String
  username : String
  secret : String

/-- A token fetch that failed: with an unexpected HTTP status, or otherwise. -/
inductive FetchError where
  | unexpectedStatus (statusCode : Nat) (message : String)
  | other (message : String)

/-- `Error()` of a failed fetch. -/
def FetchError.message : FetchError → String
  | .unexpectedStatus _ message => message
  | .other message => message

/-- A token the server issued; `issuedAt` is absent for the zero time. -/
structure IssuedToken where
  token : String
  issuedAt : Option Int
  expiresIn : Int

/-- The token server: `authutil.FetchToken` (a GET) and
`authutil.FetchTokenWithOAuth` (a POST, as client `buildkit-client`). -/
structure TokenServer where
  get : TokenOptions → Except FetchError IssuedToken
  post : TokenOptions → Except FetchError IssuedToken

structure FetchTokenResponse where
  token : String
  expiresIn : Int
  issuedAt : Int

def toTokenResponse (issued : IssuedToken) : FetchTokenResponse :=
  ⟨issued.token, issued.expiresIn, issued.issuedAt.getD 0⟩

/-- `FetchToken`: with a secret, a GET, and a POST after a GET that the
server answered 405 (with a username), 404 or 401; without, an anonymous
GET. -/
def fetchToken (server : TokenServer) (credFn : CredentialsFn) (req : FetchTokenRequest) :
    Except String FetchTokenResponse :=
  match credentials credFn req.host with
  | .error err => .error err
  | .ok (username, secret) =>
    let tokenOptions : TokenOptions := ⟨req.realm, req.service, req.scopes, username, secret⟩
    if secret ≠ "" then
      match server.get tokenOptions with
      | .ok resp => .ok (toTokenResponse resp)
      | .error (.unexpectedStatus statusCode message) =>
        if (statusCode = 405 ∧ tokenOptions.username ≠ "") ∨ statusCode = 404 ∨ statusCode = 401 then
          match server.post tokenOptions with
          | .ok resp => .ok (toTokenResponse resp)
          | .error err => .error err.message
        else .error message
      | .error err => .error err.message
    else
      match server.get tokenOptions with
      | .ok resp => .ok (toTokenResponse resp)
      | .error err => .error ("failed to fetch anonymous token: " ++ err.message)

/-- `strconv.ParseBool`; `none` is its syntax error. -/
def parseBool : String → Option Bool
  | "1" | "t" | "T" | "TRUE" | "true" | "True" => some true
  | "0" | "f" | "F" | "FALSE" | "false" | "False" => some false
  | _ => none

/-- The key material of the provider: `crypto/rand`, HMAC-SHA256 and
ed25519. -/
structure Crypto where
  /-- the answer of the `n`-th `rand.Read` of 16 bytes -/
  rand : Nat → Except String (List UInt8)
  /-- `hmac.New(sha256.New, key)`, then `Write(message)` and `Sum(nil)` -/
  hmacSum : List UInt8 → List UInt8 → List UInt8
  /-- `ed25519.NewKeyFromSeed` -/
  newKeyFromSeed : List UInt8 → List UInt8
  /-- `sign.Sign(nil, payload, priv)` -/
  sign : List UInt8 → List UInt8 → List UInt8

/-- What the provider holds: `tokenSeeds.m`, and how many random seeds it
has drawn. -/
structure Seeds where
  m : AList fun _ : String => List UInt8
  draws : Nat

/-- `tokenSeeds.getSeed`: the host's seed, drawn the first time and kept. -/
def getSeed (crypto : Crypto) (ts : Seeds) (host : String) : Seeds × Except String (List UInt8) :=
  match ts.m.lookup host with
  | some v => (⟨ts.m.insert host v, ts.draws⟩, .ok v)
  | none =>
    match crypto.rand ts.draws with
    | .error err => (⟨ts.m, ts.draws + 1⟩, .error err)
    | .ok b => (⟨ts.m.insert host b, ts.draws + 1⟩, .ok b)

/-- The error of a disabled client token authority. -/
def clientTokensDisabled : String := "rpc error: code = Unavailable desc = client side tokens disabled"

/-- The private key of a host: the HMAC of the salt over the seed, or over
nothing when the host has no secret, cut to a seed. -/
def authorityKey (crypto : Crypto) (secret : String) (seed salt : List UInt8) : List UInt8 :=
  crypto.newKeyFromSeed ((crypto.hmacSum salt (if secret ≠ "" then seed else [])).take 32)

/-- `getAuthorityKey(host, salt)`, with `BUILDKIT_NO_CLIENT_TOKEN` as
`noClientToken`. -/
def getAuthorityKey (crypto : Crypto) (noClientToken : String) (credFn : CredentialsFn) (ts : Seeds)
    (host : String) (salt : List UInt8) : Seeds × Except String (List UInt8) :=
  if parseBool noClientToken = some true then (ts, .error clientTokensDisabled)
  else
    match credentials credFn host with
    | .error err => (ts, .error err)
    | .ok (_, secret) =>
      match getSeed crypto ts host with
      | (ts, .error err) => (ts, .error err)
      | (ts, .ok seed) => (ts, .ok (authorityKey crypto secret seed salt))

/-- A request of BuildKit to the session's auth provider. -/
inductive Request where
  | credentials (host : String)
  | fetchToken (req : FetchTokenRequest)
  | getTokenAuthority (host : String) (salt : List UInt8)
  | verifyTokenAuthority (host : String) (salt payload : List UInt8)

/-- An answer of the auth provider. -/
inductive Response where
  | credentials (username secret : String)
  | token (resp : FetchTokenResponse)
  | publicKey (key : List UInt8)
  | signed (signature : List UInt8)

/-- What a session's provider works with. -/
structure Session where
  server : TokenServer
  crypto : Crypto
  noClientToken : String
  credFn : CredentialsFn

/-- One request: `Credentials`, `FetchToken`, `GetTokenAuthority` (the
public half of the key) or `VerifyTokenAuthority` (the payload signed). -/
def serve (session : Session) (ts : Seeds) : Request → Seeds × Except String Response
  | .credentials host => (ts, (credentials session.credFn host).map fun c => .credentials c.1 c.2)
  | .fetchToken req => (ts, (fetchToken session.server session.credFn req).map .token)
  | .getTokenAuthority host salt =>
    let (ts, key) := getAuthorityKey session.crypto session.noClientToken session.credFn ts host salt
    (ts, key.map fun key => .publicKey (key.drop 32))
  | .verifyTokenAuthority host salt payload =>
    let (ts, key) := getAuthorityKey session.crypto session.noClientToken session.credFn ts host salt
    (ts, key.map fun key => .signed (session.crypto.sign key payload))

/-- A run of requests against one provider, in the order they take its lock. -/
def serveAll (session : Session) : Seeds → List Request → Seeds × List (Except String Response)
  | ts, [] => (ts, [])
  | ts, request :: rest =>
    let (ts, response) := serve session ts request
    let (ts, responses) := serveAll session ts rest
    (ts, response :: responses)

/-- `NewDynamicAuthProvider`: no seeds yet. -/
def newSeeds : Seeds := ⟨∅, 0⟩

/-- The hosts `BuildAndPush` configures for its registries. -/
def hostsFor (registries : List RegistryConfig) : Hosts :=
  configureHosts (generateRegistryFunc registries).1 (generateRegistryFunc registries).2

/-! ## What each operation does -/

theorem lookup_hostMap (registries : List RegistryConfig) (host : String) :
    (hostMap registries).lookup host = (registries.filter (·.host = host)).getLast? := by
  rw [hostMap, lookup_assignAll, AList.lookup_empty, Option.or_none, dlookup_reverse, List.filterMap_map]
  congr 1
  rw [← List.filterMap_eq_filter]
  congr 1
  funext reg
  by_cases same : reg.host = host <;> simp [same, Option.guard]

/-- A later seed map keeps every seed of an earlier one. -/
def Seeds.Keeps (ts ts' : Seeds) : Prop :=
  ∀ host seed, ts.m.lookup host = some seed → ts'.m.lookup host = some seed

theorem Seeds.Keeps.refl (ts : Seeds) : ts.Keeps ts := fun _ _ found => found

theorem Seeds.Keeps.trans {ts₁ ts₂ ts₃ : Seeds} (first : ts₁.Keeps ts₂) (second : ts₂.Keeps ts₃) :
    ts₁.Keeps ts₃ := fun host seed found => second host seed (first host seed found)

theorem getSeed_spec (crypto : Crypto) (ts : Seeds) (host : String) :
    ts.Keeps (getSeed crypto ts host).1 ∧
      ∀ seed, (getSeed crypto ts host).2 = .ok seed → (getSeed crypto ts host).1.m.lookup host = some seed := by
  unfold getSeed
  cases found : ts.m.lookup host with
  | some v =>
    refine ⟨fun h seed kept => ?_, fun seed returned => ?_⟩
    · by_cases same : h = host
      · subst same
        rw [found] at kept
        simpa using kept
      · simpa [AList.lookup_insert_ne same] using kept
    · cases returned
      simp
  | none =>
    cases drawn : crypto.rand ts.draws with
    | error err => exact ⟨fun _ _ kept => kept, fun _ returned => by cases returned⟩
    | ok b =>
      refine ⟨fun h seed kept => ?_, fun seed returned => ?_⟩
      · have other : h ≠ host := fun same => by rw [same, found] at kept; cases kept
        simpa [AList.lookup_insert_ne other] using kept
      · cases returned
        simp

theorem getAuthorityKey_spec (crypto : Crypto) (noClientToken : String) (credFn : CredentialsFn) (ts : Seeds)
    (host : String) (salt : List UInt8) :
    ts.Keeps (getAuthorityKey crypto noClientToken credFn ts host salt).1 ∧
      ∀ key, (getAuthorityKey crypto noClientToken credFn ts host salt).2 = .ok key →
        ∃ username secret seed, credentials credFn host = .ok (username, secret) ∧
          (getAuthorityKey crypto noClientToken credFn ts host salt).1.m.lookup host = some seed ∧
          key = authorityKey crypto secret seed salt := by
  unfold getAuthorityKey
  split
  · exact ⟨Seeds.Keeps.refl ts, fun _ returned => by cases returned⟩
  · cases credentialed : credentials credFn host with
    | error err => exact ⟨Seeds.Keeps.refl ts, fun _ returned => by cases returned⟩
    | ok creds =>
      obtain ⟨username, secret⟩ := creds
      obtain ⟨keeps, seeded⟩ := getSeed_spec crypto ts host
      dsimp only
      cases drawn : getSeed crypto ts host with
      | mk ts' result =>
        rw [drawn] at keeps seeded
        cases result with
        | error err => exact ⟨keeps, fun _ returned => by cases returned⟩
        | ok seed =>
          refine ⟨keeps, fun key returned => ⟨username, secret, seed, rfl, seeded seed rfl, ?_⟩⟩
          cases returned
          rfl

/-- What an answer with the token authority is made of, given the host's
seed: the key of the host's credentials and seed, its public half or a
signature with it. Other answers are unconstrained. -/
def AuthorityAnswer (session : Session) (seeds : String → Option (List UInt8)) : Request → Response → Prop
  | .getTokenAuthority host salt, response => ∃ username secret seed,
      credentials session.credFn host = .ok (username, secret) ∧ seeds host = some seed ∧
        response = .publicKey ((authorityKey session.crypto secret seed salt).drop 32)
  | .verifyTokenAuthority host salt payload, response => ∃ username secret seed,
      credentials session.credFn host = .ok (username, secret) ∧ seeds host = some seed ∧
        response = .signed (session.crypto.sign (authorityKey session.crypto secret seed salt) payload)
  | _, _ => True

theorem AuthorityAnswer.mono {session : Session} {ts ts' : Seeds} (keeps : ts.Keeps ts') :
    ∀ {request : Request} {response : Response},
      AuthorityAnswer session (ts.m.lookup ·) request response →
        AuthorityAnswer session (ts'.m.lookup ·) request response
  | .credentials _, _, _ => trivial
  | .fetchToken _, _, _ => trivial
  | .getTokenAuthority host _, _, ⟨username, secret, seed, credentialed, seeded, answered⟩ =>
    ⟨username, secret, seed, credentialed, keeps host seed seeded, answered⟩
  | .verifyTokenAuthority host _ _, _, ⟨username, secret, seed, credentialed, seeded, answered⟩ =>
    ⟨username, secret, seed, credentialed, keeps host seed seeded, answered⟩

theorem serve_spec (session : Session) (ts : Seeds) (request : Request) :
    ts.Keeps (serve session ts request).1 ∧ ∀ response, (serve session ts request).2 = .ok response →
      AuthorityAnswer session ((serve session ts request).1.m.lookup ·) request response := by
  cases request with
  | credentials host => exact ⟨Seeds.Keeps.refl ts, fun _ _ => trivial⟩
  | fetchToken req => exact ⟨Seeds.Keeps.refl ts, fun _ _ => trivial⟩
  | getTokenAuthority host salt =>
    obtain ⟨keeps, keyed⟩ := getAuthorityKey_spec session.crypto session.noClientToken session.credFn ts host salt
    refine ⟨keeps, fun response answered => ?_⟩
    cases key : (getAuthorityKey session.crypto session.noClientToken session.credFn ts host salt).2 with
    | error err => simp [serve, key, Except.map] at answered
    | ok key' =>
      simp only [serve, key, Except.map, Except.ok.injEq] at answered
      obtain ⟨username, secret, seed, credentialed, seeded, rfl⟩ := keyed key' key
      exact ⟨username, secret, seed, credentialed, seeded, answered.symm⟩
  | verifyTokenAuthority host salt payload =>
    obtain ⟨keeps, keyed⟩ := getAuthorityKey_spec session.crypto session.noClientToken session.credFn ts host salt
    refine ⟨keeps, fun response answered => ?_⟩
    cases key : (getAuthorityKey session.crypto session.noClientToken session.credFn ts host salt).2 with
    | error err => simp [serve, key, Except.map] at answered
    | ok key' =>
      simp only [serve, key, Except.map, Except.ok.injEq] at answered
      obtain ⟨username, secret, seed, credentialed, seeded, rfl⟩ := keyed key' key
      exact ⟨username, secret, seed, credentialed, seeded, answered.symm⟩

/-- Over a run, from any seeds, every seed is kept, and every answer with the
token authority is made from the host's seed at the end of the run. -/
theorem serveAll_spec (session : Session) :
    ∀ (ts : Seeds) (requests : List Request), ts.Keeps (serveAll session ts requests).1 ∧
      List.Forall₂ (fun request response => ∀ answer, response = .ok answer →
          AuthorityAnswer session ((serveAll session ts requests).1.m.lookup ·) request answer)
        requests (serveAll session ts requests).2
  | ts, [] => ⟨Seeds.Keeps.refl ts, .nil⟩
  | ts, request :: rest => by
    obtain ⟨keeps, answered⟩ := serve_spec session ts request
    cases step : serve session ts request with
    | mk ts₁ response =>
      rw [step] at keeps answered
      obtain ⟨laterKeeps, laterAnswered⟩ := serveAll_spec session ts₁ rest
      simp only [serveAll, step]
      exact ⟨keeps.trans laterKeeps,
        .cons (fun answer ok => AuthorityAnswer.mono laterKeeps (answered answer ok)) laterAnswered⟩

end Forge.Source.AuthProvider
