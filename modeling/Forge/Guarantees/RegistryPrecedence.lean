import Forge.Source.BuildJob
import Forge.Lib.Maps

/-!
# Which credentials a registry gets

`buildRegistryConfigs` applies a fixed precedence: an entry for a host
overrides everything before it, so the last entry for a host decides its
configuration; a host that no entry names gets the credentials of the first
secret that has it, without `NonSSL`; and no other host is configured
(`registry_auth_precedence`).

`expectedConfig` states that rule over the whole entry list. The loop keeps
`Precedence` over the entries done so far (`precedence_step`), so the map
after the loop is `expectedConfig` at every host, and the returned list holds
exactly that configuration for each host.
-/

namespace Forge.Guarantees.RegistryPrecedence
open Forge.Source.Api Forge.Source.BuildJob Forge.Lib.Maps

/-! ## The precedence rule -/

/-- The `auths` map of an entry's secret, when the entry takes the switch's
secret case and the secret can be read. -/
def secretHosts (sources : CredentialSources) (reg : Registry) : Option AuthConfigs :=
  if !reg.basicAuth.isInline && reg.basicAuth.isSecret then
    (sources.secret reg.basicAuth.secretName reg.basicAuth.secretNamespace).toOption
  else none

/-- The credentials for `h` in the first secret that has it. -/
def firstSecretFor (sources : CredentialSources) (h : String) (regs : List Registry) :
    Option AuthConfig :=
  regs.findSome? fun reg => (secretHosts sources reg).bind (·.lookup h)

/-- The configuration for an entry's server from a credential source that
holds the server. -/
def configFromAuths (reg : Registry) : Except String AuthConfigs → Option RegistryConfig
  | .ok authConfigs => (authConfigs.lookup reg.server).map fun ac =>
      ⟨reg.server, reg.nonSSL, ac.username, ac.password⟩
  | .error _ => none

/-- What the switch configures for an entry's own server: its inline
credentials, the credentials for the server from its own secret or from the
dynamic credentials, or none at all. -/
def derivedConfig (sources : CredentialSources) (reg : Registry) : Option RegistryConfig :=
  if reg.basicAuth.isInline then
    some ⟨reg.server, reg.nonSSL, reg.basicAuth.username, reg.basicAuth.password⟩
  else if reg.basicAuth.isSecret then
    configFromAuths reg (sources.secret reg.basicAuth.secretName reg.basicAuth.secretNamespace)
  else if reg.dynamicCloudCredentials then configFromAuths reg sources.dynamic
  else some ⟨reg.server, reg.nonSSL, "", ""⟩

theorem host_of_configFromAuths {reg : Registry} {auths : Except String AuthConfigs}
    {config : RegistryConfig} (derived : configFromAuths reg auths = some config) :
    config.host = reg.server := by
  cases auths with
  | error err => cases derived
  | ok authConfigs =>
    obtain ⟨ac, -, rfl⟩ := Option.map_eq_some_iff.mp derived
    rfl

/-- The configuration of host `h`: that of the last entry for `h`, else the
implicit one of the first secret that has `h`. -/
def expectedConfig (sources : CredentialSources) (regs : List Registry) (h : String) :
    Option RegistryConfig :=
  match (regs.filter (·.server = h)).getLast? with
  | some reg => derivedConfig sources reg
  | none => (firstSecretFor sources h regs).map (implicitConfig h)

theorem host_of_derivedConfig {sources : CredentialSources} {reg : Registry} {config : RegistryConfig}
    (derived : derivedConfig sources reg = some config) : config.host = reg.server := by
  unfold derivedConfig at derived
  split_ifs at derived
  · cases derived
    rfl
  · exact host_of_configFromAuths derived
  · exact host_of_configFromAuths derived
  · cases derived
    rfl

theorem host_of_expectedConfig {sources : CredentialSources} {regs : List Registry} {h : String}
    {config : RegistryConfig} (expected : expectedConfig sources regs h = some config) :
    config.host = h := by
  unfold expectedConfig at expected
  split at expected
  · rename_i reg last
    have named : reg.server = h := by
      simpa using List.mem_filter.mp (List.mem_of_getLast? last) |>.2
    rw [host_of_derivedConfig expected, named]
  · obtain ⟨auth, -, rfl⟩ := Option.map_eq_some_iff.mp expected
    rfl

/-! ## One entry of the loop -/

theorem found_of_bind_eq_ok {α : Type} {read : Except String AuthConfigs} {server : String}
    {k : AuthConfigs → String × String → Except String α} {result : α}
    (success : (read >>= fun authConfigs => getBasicAuthForHost authConfigs server >>= k authConfigs) =
      .ok result) :
    ∃ authConfigs ac, read = .ok authConfigs ∧ authConfigs.lookup server = some ac ∧
      k authConfigs (ac.username, ac.password) = .ok result := by
  cases read with
  | error err => cases success
  | ok authConfigs =>
    cases found : getBasicAuthForHost authConfigs server with
    | error err => simp [found, bind, Except.bind] at success
    | ok auth =>
      obtain ⟨username, password⟩ := auth
      obtain ⟨ac, lookedUp, rfl, rfl⟩ := getBasicAuthForHost_eq_ok found
      simp only [found, bind, Except.bind] at success
      exact ⟨authConfigs, ac, rfl, lookedUp, success⟩

/-- An entry that succeeds configures its server as `derivedConfig` says,
then adds the hosts of its secret. -/
theorem configureRegistry_eq_ok {sources : CredentialSources} {configured configured' : Configured}
    {reg : Registry} (success : configureRegistry sources configured reg = .ok configured') :
    ∃ config, derivedConfig sources reg = some config ∧
      configured' = addImplicit (configured.insert reg.server config)
        (((secretHosts sources reg).map AList.entries).getD []) := by
  unfold configureRegistry at success
  split at success
  · cases success
  by_cases inline : reg.basicAuth.isInline = true
  · simp only [inline, if_true, Except.ok.injEq] at success
    exact ⟨⟨reg.server, reg.nonSSL, reg.basicAuth.username, reg.basicAuth.password⟩,
      by simp [derivedConfig, inline], by simp [secretHosts, inline, addImplicit, success]⟩
  by_cases secret : reg.basicAuth.isSecret = true
  · -- the secret case: read the secret, find the server in it
    simp only [inline, secret, Bool.false_eq_true, if_false, if_true] at success
    obtain ⟨authConfigs, ac, read, lookedUp, success⟩ := found_of_bind_eq_ok success
    simp only [pure, Except.pure, Except.ok.injEq] at success
    refine ⟨⟨reg.server, reg.nonSSL, ac.username, ac.password⟩,
      by simp [derivedConfig, configFromAuths, inline, secret, read, lookedUp], ?_⟩
    rw [← success]
    simp [secretHosts, inline, secret, read, Except.toOption]
  by_cases dynamic : reg.dynamicCloudCredentials = true
  · simp only [inline, secret, dynamic, Bool.false_eq_true, if_false, if_true] at success
    obtain ⟨authConfigs, ac, read, lookedUp, success⟩ := found_of_bind_eq_ok success
    simp only [pure, Except.pure, Except.ok.injEq] at success
    refine ⟨⟨reg.server, reg.nonSSL, ac.username, ac.password⟩,
      by simp [derivedConfig, configFromAuths, inline, secret, dynamic, read, lookedUp], ?_⟩
    simp [secretHosts, secret, addImplicit, success]
  · simp only [inline, secret, dynamic, Bool.false_eq_true, if_false, Except.ok.injEq] at success
    exact ⟨⟨reg.server, reg.nonSSL, "", ""⟩, by simp [derivedConfig, inline, secret, dynamic],
      by simp [secretHosts, secret, addImplicit, success]⟩

/-! ## The loop -/

/-- What the configurations after the entries `done` satisfy. -/
structure Precedence (sources : CredentialSources) (done : List Registry) (configured : Configured) :
    Prop where
  derived : ∀ reg ∈ done, (derivedConfig sources reg).isSome
  lookup : ∀ h, configured.lookup h = expectedConfig sources done h

theorem precedence_nil (sources : CredentialSources) : Precedence sources [] ∅ :=
  ⟨by simp, fun h => by simp [expectedConfig, firstSecretFor]⟩

theorem expectedConfig_append_self (sources : CredentialSources) (done : List Registry) (reg : Registry) :
    expectedConfig sources (done ++ [reg]) reg.server = derivedConfig sources reg := by
  simp [expectedConfig, List.filter_append]

theorem expectedConfig_append_ne (sources : CredentialSources) (done : List Registry) (reg : Registry)
    {h : String} (other : h ≠ reg.server) :
    expectedConfig sources (done ++ [reg]) h =
      match (done.filter (·.server = h)).getLast? with
      | some last => derivedConfig sources last
      | none => ((firstSecretFor sources h done).or
          ((secretHosts sources reg).bind (·.lookup h))).map (implicitConfig h) := by
  have skipped : (reg.server = h) = False := propext ⟨fun same => other same.symm, False.elim⟩
  simp [expectedConfig, firstSecretFor, List.filter_append, List.findSome?_append, skipped]

theorem precedence_step {sources : CredentialSources} {done : List Registry}
    {configured configured' : Configured} {reg : Registry}
    (before : Precedence sources done configured)
    (success : configureRegistry sources configured reg = .ok configured') :
    Precedence sources (done ++ [reg]) configured' := by
  obtain ⟨config, derived, rfl⟩ := configureRegistry_eq_ok success
  refine ⟨?_, fun h => ?_⟩
  · intro r mem
    rcases List.mem_append.mp mem with earlier | now
    · exact before.derived r earlier
    · rw [List.mem_singleton.mp now, derived]
      rfl
  rw [lookup_addImplicit]
  by_cases own : h = reg.server
  · subst own
    rw [AList.lookup_insert, expectedConfig_append_self, derived]
    rfl
  · rw [AList.lookup_insert_ne own, expectedConfig_append_ne sources done reg own,
      before.lookup h]
    have secretLookup : ((((secretHosts sources reg).map AList.entries).getD []).dlookup h) =
        (secretHosts sources reg).bind (·.lookup h) := by
      cases secretHosts sources reg <;> rfl
    rw [secretLookup]
    unfold expectedConfig
    split
    · rename_i last lastIs
      have isSome := before.derived last
        (List.mem_filter.mp (List.mem_of_getLast? lastIs)).1
      obtain ⟨value, hasValue⟩ := Option.isSome_iff_exists.mp isSome
      simp [hasValue]
    · cases firstSecretFor sources h done <;> simp

theorem precedence_foldlM (sources : CredentialSources) :
    ∀ (rest done : List Registry) (configured final : Configured),
      Precedence sources done configured →
      rest.foldlM (configureRegistry sources) configured = .ok final →
      Precedence sources (done ++ rest) final
  | [], done, configured, final, before, success => by
    simp only [List.foldlM_nil, pure, Except.pure, Except.ok.injEq] at success
    subst success
    simpa using before
  | reg :: rest, done, configured, final, before, success => by
    rw [List.foldlM_cons] at success
    cases step : configureRegistry sources configured reg with
    | error err => simp [step, bind, Except.bind] at success
    | ok next =>
      simp only [step, bind, Except.bind] at success
      simpa using precedence_foldlM sources rest (done ++ [reg]) next final
        (precedence_step before step) success

theorem lookup_configureRegistries {sources : CredentialSources} {regs : List Registry}
    {configured : Configured} (success : configureRegistries sources regs = .ok configured)
    (h : String) : configured.lookup h = expectedConfig sources regs h := by
  simpa using (precedence_foldlM sources regs [] ∅ configured (precedence_nil sources) success).lookup h

/-- The configurations `buildRegistryConfigs` returns for a host: exactly the
one the precedence rule gives, and none for a host it does not configure. -/
theorem registry_auth_precedence (sources : CredentialSources) (regs : List Registry)
    (configs : List RegistryConfig) (success : buildRegistryConfigs sources regs = .ok configs)
    (h : String) :
    configs.filter (fun config => config.host = h) = (expectedConfig sources regs h).toList := by
  unfold buildRegistryConfigs at success
  cases looped : configureRegistries sources regs with
  | error err => simp [looped, Except.map] at success
  | ok configured =>
    simp only [looped, Except.map, Except.ok.injEq] at success
    subst success
    have keyed : KeyedBy RegistryConfig.host configured := fun a config found => by
      rw [lookup_configureRegistries looped] at found
      exact host_of_expectedConfig found
    rw [filter_values_eq_lookup RegistryConfig.host configured keyed h,
      lookup_configureRegistries looped h]

def twoRegistriesSecret : AuthConfigs :=
  (AList.insert "host2.example" ⟨"secret-user-2", "secret-pass-2"⟩ ∅).insert "host1.example"
    ⟨"secret-user-1", "secret-pass-1"⟩

def secretSources : CredentialSources :=
  ⟨fun name ns => if name = "regcred" ∧ ns = "default" then .ok twoRegistriesSecret
    else .error "failed to fetch registry auth secret: not found", .error "no dynamic credentials"⟩

def secretThenInline : List Registry :=
  [⟨"host1.example", false, ⟨"", "", "regcred", "default"⟩, false⟩,
    ⟨"host2.example", true, ⟨"user", "pass", "", ""⟩, false⟩]

/-- The inline entry overrides the secret's credentials for the second host. -/
theorem inline_overrides_secret_host :
    buildRegistryConfigs secretSources secretThenInline =
      .ok [⟨"host2.example", true, "user", "pass"⟩, ⟨"host1.example", false, "secret-user-1", "secret-pass-1"⟩] ∧
    [(⟨"host2.example", true, "user", "pass"⟩ : RegistryConfig),
        ⟨"host1.example", false, "secret-user-1", "secret-pass-1"⟩].filter
        (fun config => config.host = "host2.example") =
      (expectedConfig secretSources secretThenInline "host2.example").toList :=
  ⟨by decide, registry_auth_precedence secretSources secretThenInline _ (by decide) "host2.example"⟩

end Forge.Guarantees.RegistryPrecedence
