import Forge.Source.Api
import Forge.Lib.Strings

/-!
# The build job

Source: `internal/buildjob/buildjob.go` (`Job.Run`, `generateBuildOptions`,
`buildRegistryConfigs`, `getBasicAuthForHost`), `internal/buildjob/statusupdate.go`
and `internal/credentials/docker.go` (`ExtractBasicAuthForHost`).

The job runs against the API server, the message producer, the credential
sources and the image builder, each an oracle:

* the API server stores the build; `UpdateStatus` is accepted or rejected,
  and an accepted write stores the status as its JSON encoding decodes, so
  `PreviousState` (tagged `json:"-"`) comes back empty, and the stored object
  is what the call returns;
* the producer's `Push` answers in turn, or is absent;
* a docker config secret and the dynamic credentials file are read as their
  `auths` maps, or fail with the texts of `getDockerAuthsFromSecret` and
  `getDockerAuthsFromFS`;
* `BuildAndPush` returns the pushed image or an error.

Go maps are association lists; `buildRegistryConfigs` returns the configured
registries in the list's order, where Go returns them in map order. The
times `time.Now()` returns are parameters.
-/

namespace Forge.Source.BuildJob
open Forge.Source.Api Forge.Lib.Strings

/-! ## Registry configurations -/

/-- `types.AuthConfig`: the fields the job reads. -/
structure AuthConfig where
  username : String
  password : String
  deriving DecidableEq, Repr

/-- `credentials.AuthConfigs`: credentials by registry host. -/
abbrev AuthConfigs := AList fun _ : String => AuthConfig

/-- `config.Registry`. -/
structure RegistryConfig where
  host : String
  nonSSL : Bool
  username : String
  password : String
  deriving DecidableEq, Repr

def extractBasicAuthForHost (authConfigs : AuthConfigs) (host : String) :
    Except String (String × String) :=
  match authConfigs.lookup host with
  | some ac => .ok (ac.username, ac.password)
  | none => .error ("registry " ++ quote host ++ " is not in list of registries for this auth source [" ++
      " ".intercalate authConfigs.keys ++ "]")

def getBasicAuthForHost (authConfigs : AuthConfigs) (host : String) :
    Except String (String × String) :=
  match extractBasicAuthForHost authConfigs host with
  | .ok auth => .ok auth
  | .error err => .error ("did not find docker auth for specified host (" ++ quote host ++
      ") in the supplied secret: " ++ err)

theorem getBasicAuthForHost_eq_ok {authConfigs : AuthConfigs} {host username password : String}
    (found : getBasicAuthForHost authConfigs host = .ok (username, password)) :
    ∃ ac, authConfigs.lookup host = some ac ∧ username = ac.username ∧ password = ac.password := by
  unfold getBasicAuthForHost extractBasicAuthForHost at found
  cases lookedUp : authConfigs.lookup host with
  | none => simp [lookedUp] at found
  | some ac =>
    simp only [lookedUp, Except.ok.injEq, Prod.mk.injEq] at found
    exact ⟨ac, rfl, found.1.symm, found.2.symm⟩

/-- Where credentials come from: `getDockerAuthsFromSecret(ctx, name, namespace)`
and `getDockerAuthsFromFS()`. -/
structure CredentialSources where
  secret : String → String → Except String AuthConfigs
  dynamic : Except String AuthConfigs

/-- `configuredRegistries`: a configuration by host. -/
abbrev Configured := AList fun _ : String => RegistryConfig

/-- The configuration a secret implies for one of its hosts. -/
def implicitConfig (host : String) (auth : AuthConfig) : RegistryConfig :=
  ⟨host, false, auth.username, auth.password⟩

/-- The loop over a secret's hosts: each host not configured yet is added. -/
def addImplicit (configured : Configured) (hosts : List (Σ _ : String, AuthConfig)) : Configured :=
  hosts.foldl (fun acc host =>
    if host.1 ∈ acc then acc else acc.insert host.1 (implicitConfig host.1 host.2)) configured

theorem addImplicit_cons (configured : Configured) (host : String) (auth : AuthConfig)
    (rest : List (Σ _ : String, AuthConfig)) :
    addImplicit configured (⟨host, auth⟩ :: rest) =
      addImplicit (if host ∈ configured then configured
        else configured.insert host (implicitConfig host auth)) rest := rfl

theorem lookup_addImplicit (configured : Configured) (hosts : List (Σ _ : String, AuthConfig))
    (h : String) :
    (addImplicit configured hosts).lookup h =
      (configured.lookup h).or ((hosts.dlookup h).map (implicitConfig h)) := by
  induction hosts generalizing configured with
  | nil => simp [addImplicit]
  | cons host rest ih =>
    obtain ⟨k, auth⟩ := host
    rw [addImplicit_cons]
    by_cases configuredHost : k ∈ configured
    · rw [if_pos configuredHost, ih]
      by_cases same : h = k
      · subst same
        obtain ⟨config, found⟩ := Option.isSome_iff_exists.mp (AList.lookup_isSome.mpr configuredHost)
        simp [found]
      · rw [List.dlookup_cons_ne _ _ same]
    · rw [if_neg configuredHost, ih]
      by_cases same : h = k
      · subst same
        simp [AList.lookup_insert, AList.lookup_eq_none.mpr configuredHost]
      · rw [AList.lookup_insert_ne same, List.dlookup_cons_ne _ _ same]

/-- One entry of the loop of `buildRegistryConfigs`. -/
def configureRegistry (sources : CredentialSources) (configured : Configured)
    (apiReg : Registry) : Except String Configured :=
  match apiReg.basicAuth.validate with
  | .error err => .error ("basic auth validation failed: " ++ err)
  | .ok () =>
    let auth := apiReg.basicAuth
    if auth.isInline then
      .ok (configured.insert apiReg.server ⟨apiReg.server, apiReg.nonSSL, auth.username, auth.password⟩)
    else if auth.isSecret then do
      let authConfigs ← sources.secret auth.secretName auth.secretNamespace
      let (username, password) ← getBasicAuthForHost authConfigs apiReg.server
      let configured := configured.insert apiReg.server ⟨apiReg.server, apiReg.nonSSL, username, password⟩
      pure (addImplicit configured authConfigs.entries)
    else if apiReg.dynamicCloudCredentials then do
      let authConfigs ← sources.dynamic
      let (username, password) ← getBasicAuthForHost authConfigs apiReg.server
      pure (configured.insert apiReg.server ⟨apiReg.server, apiReg.nonSSL, username, password⟩)
    else
      .ok (configured.insert apiReg.server ⟨apiReg.server, apiReg.nonSSL, "", ""⟩)

/-- The configurations after the loop over `apiRegs`. -/
def configureRegistries (sources : CredentialSources) (apiRegs : List Registry) :
    Except String Configured :=
  apiRegs.foldlM (configureRegistry sources) ∅

def buildRegistryConfigs (sources : CredentialSources) (apiRegs : List Registry) :
    Except String (List RegistryConfig) :=
  (configureRegistries sources apiRegs).map fun configured => configured.entries.map (·.2)

/-- `config.BuildOptions`: durations in seconds; `CacheFrom` is left empty. -/
structure BuildOptions where
  contextURL : String
  contextTimeoutSeconds : Nat
  imageName : String
  imageSizeLimit : Nat
  labels : StringMap
  buildArgs : List String
  disableBuildCache : Bool
  disableLayerCacheExport : Bool
  timeoutSeconds : Nat
  registries : List RegistryConfig
  pushRegistries : List String
  pluginData : StringMap

def generateBuildOptions (sources : CredentialSources) (cib : ContainerImageBuild) :
    Except String BuildOptions :=
  match buildRegistryConfigs sources cib.spec.registries with
  | .error err => .error ("cannot build registry config: " ++ err)
  | .ok registries => .ok
    { contextURL := cib.spec.context
      contextTimeoutSeconds := cib.spec.contextTimeoutSeconds
      imageName := cib.spec.imageName
      imageSizeLimit := cib.spec.imageSizeLimit
      labels := cib.spec.labels
      buildArgs := cib.spec.buildArgs
      disableBuildCache := cib.spec.disableBuildCache
      disableLayerCacheExport := cib.spec.disableLayerCacheExport
      timeoutSeconds := cib.spec.timeoutSeconds
      registries := registries
      pushRegistries := cib.spec.pushRegistries
      pluginData := cib.spec.pluginData }

@[simp] theorem generateBuildOptions_status (sources : CredentialSources)
    (cib : ContainerImageBuild) (status : ContainerImageBuildStatus) :
    generateBuildOptions sources { cib with status := status } = generateBuildOptions sources cib :=
  rfl

/-! ## Status updates -/

/-- `StatusUpdate`, the message published for each status write. -/
structure StatusUpdate where
  name : String
  annotations : StringMap
  objectLink : String
  previousState : String
  currentState : String
  errorMessage : String
  imageURLs : List String
  imageSize : Nat

/-- The API server and the producer as the job sees them. -/
structure Cluster where
  /-- the build as the API server stores it -/
  stored : ContainerImageBuild
  /-- the answers to the coming `UpdateStatus` calls: `none` accepts, `some err` rejects -/
  statusAnswers : List (Option String)
  /-- the answers to the coming `Push` calls; `none` when no producer is configured -/
  pushAnswers : Option (List (Except String Unit))
  /-- the messages `Push` accepted, in order -/
  published : List StatusUpdate

/-- The message `updateStatus` builds from the object `UpdateStatus` returned.
`ImageSize` is not set. -/
def statusUpdate (cib : ContainerImageBuild) : StatusUpdate where
  name := cib.metadata.name
  annotations := cib.metadata.annotations
  objectLink := String.ofList (trimSuffix cib.metadata.selfLink.toList "/status".toList)
  previousState := cib.status.previousState.name
  currentState := cib.status.state.name
  errorMessage := cib.status.errorMessage
  imageURLs := cib.status.imageURLs
  imageSize := 0

/-- `Push` of the producer, if there is one. -/
def publish (update : StatusUpdate) (c : Cluster) : Cluster × Except String Unit :=
  match c.pushAnswers with
  | none => (c, .ok ())
  | some answers =>
    match answers.headD (.ok ()) with
    | .error err => ({ c with pushAnswers := some answers.tail }, .error err)
    | .ok () =>
      ({ c with pushAnswers := some answers.tail, published := c.published ++ [update] }, .ok ())

/-- `updateStatus`: write the status, then publish what the write returned. -/
def updateStatus (cib : ContainerImageBuild) (c : Cluster) :
    Cluster × Except String ContainerImageBuild :=
  match c.statusAnswers.headD none with
  | some err => ({ c with statusAnswers := c.statusAnswers.tail }, .error ("unable to update status: " ++ err))
  | none =>
    let stored := { c.stored with status := cib.status.persisted }
    let c := { c with stored := stored, statusAnswers := c.statusAnswers.tail }
    match publish (statusUpdate stored) c with
    | (c, .error err) => (c, .error ("unable to publish message: " ++ err))
    | (c, .ok ()) => (c, .ok stored)

def transitionToBuilding (now : Int) (cib : ContainerImageBuild) (c : Cluster) :
    Cluster × Except String ContainerImageBuild :=
  updateStatus { cib with status := { cib.status.setState .building with buildStartedAt := some now } } c

def transitionToComplete (now : Int) (cib : ContainerImageBuild) (urls : List String) (size : Nat)
    (c : Cluster) : Cluster × Except String Unit :=
  let status := { cib.status.setState .completed with
    imageURLs := urls, imageSize := size, buildCompletedAt := some now }
  match updateStatus { cib with status := status } c with
  | (c, .error err) => (c, .error err)
  | (c, .ok _) => (c, .ok ())

def transitionToFailure (now : Int) (cib : ContainerImageBuild) (message : String) (c : Cluster) :
    Cluster × Except String Unit :=
  let status := { cib.status.setState .failed with
    errorMessage := message, buildCompletedAt := some now }
  match updateStatus { cib with status := status } c with
  | (c, .error err) => (c, .error err)
  | (c, .ok _) => (c, .ok ())

structure Image where
  urls : List String
  size : Nat

/-- The outside of one run: the `Get` result, the credential sources, the
builder, and the two times `time.Now()` gives. -/
structure Environment where
  /-- `Get` fails with this error, or returns the stored build -/
  getError : Option String
  sources : CredentialSources
  buildAndPush : BuildOptions → Except String Image
  startedAt : Int
  completedAt : Int

/-- Record a failure, wrapping the first error with the second's text when
recording fails (`errors.Wrap(err, iErr.Error())`). -/
def failWith (env : Environment) (cib : ContainerImageBuild) (err : String) (c : Cluster) :
    Cluster × Except String Unit :=
  match transitionToFailure env.completedAt cib err c with
  | (c, .error iErr) => (c, .error (iErr ++ ": " ++ err))
  | (c, .ok ()) => (c, .error err)

/-- `Job.Run` for the build `name`. -/
def run (env : Environment) (name : String) (c : Cluster) : Cluster × Except String Unit :=
  match env.getError with
  | some err => (c, .error ("cannot find containerimagebuild " ++ name ++ ": " ++ err))
  | none =>
    -- `Get` returns the stored build as its JSON decodes
    let cib := { c.stored with status := c.stored.status.persisted }
    match transitionToBuilding env.startedAt cib c with
    | (c, .error err) => (c, .error err)
    | (c, .ok cib) =>
      match generateBuildOptions env.sources cib with
      | .error err => failWith env cib ("failed to generate build options: " ++ err) c
      | .ok opts =>
        match env.buildAndPush opts with
        | .error err => failWith env cib err c
        | .ok image => transitionToComplete env.completedAt cib image.urls image.size c

/-! ## Runs against a cooperating cluster -/

/-- The API server accepts each coming write, and the producer, if there is
one, each coming message. -/
def Cluster.Cooperative (c : Cluster) : Prop :=
  (∀ answer ∈ c.statusAnswers, answer = none) ∧
    ∀ answers, c.pushAnswers = some answers → ∀ answer ∈ answers, answer = .ok ()

theorem publish_cooperative (update : StatusUpdate) {c : Cluster} (coop : c.Cooperative) :
    ∃ c', publish update c = (c', .ok ()) ∧ c'.stored = c.stored ∧ c'.Cooperative := by
  obtain ⟨accepts, publishes⟩ := coop
  unfold publish
  cases pushing : c.pushAnswers with
  | none => exact ⟨c, rfl, rfl, accepts, by simp [pushing]⟩
  | some answers =>
    have tailAccepts : ∀ answer ∈ answers.tail, answer = .ok () :=
      fun answer mem => publishes answers pushing answer (List.mem_of_mem_tail mem)
    cases answers with
    | nil => exact ⟨_, rfl, rfl, accepts, by simp⟩
    | cons first rest =>
      obtain rfl : first = .ok () := publishes _ pushing first List.mem_cons_self
      exact ⟨_, rfl, rfl, accepts, by simpa using tailAccepts⟩

/-- A write to a cooperating cluster stores the persisted status and returns
the stored build, and the cluster keeps cooperating. -/
theorem updateStatus_cooperative (cib : ContainerImageBuild) {c : Cluster} (coop : c.Cooperative) :
    ∃ c', updateStatus cib c = (c', .ok { c.stored with status := cib.status.persisted }) ∧
      c'.stored = { c.stored with status := cib.status.persisted } ∧ c'.Cooperative := by
  have accepted : c.statusAnswers.headD none = none := by
    cases answers : c.statusAnswers with
    | nil => rfl
    | cons first rest => exact coop.1 first (by simp [answers])
  have tailCoop : ({ c with
      stored := { c.stored with status := cib.status.persisted }
      statusAnswers := c.statusAnswers.tail } : Cluster).Cooperative :=
    ⟨fun answer mem => coop.1 answer (List.mem_of_mem_tail mem), coop.2⟩
  obtain ⟨c', published, stored, coop'⟩ :=
    publish_cooperative (statusUpdate { c.stored with status := cib.status.persisted }) tailCoop
  refine ⟨c', ?_, stored, coop'⟩
  unfold updateStatus
  simp only [accepted]
  rw [published]

theorem transitionToBuilding_cooperative (now : Int) (cib : ContainerImageBuild) {c : Cluster}
    (coop : c.Cooperative) :
    ∃ c' status, transitionToBuilding now cib c = (c', .ok { c.stored with status := status }) ∧
      c'.Cooperative := by
  obtain ⟨c', written, -, coop'⟩ := updateStatus_cooperative
    { cib with status := { cib.status.setState .building with buildStartedAt := some now } } coop
  exact ⟨c', _, written, coop'⟩

theorem transitionToComplete_cooperative (now : Int) (cib : ContainerImageBuild)
    (urls : List String) (size : Nat) {c : Cluster} (coop : c.Cooperative) :
    ∃ c', transitionToComplete now cib urls size c = (c', .ok ()) ∧
      c'.stored.status.state = .completed ∧ c'.Cooperative := by
  obtain ⟨c', written, stored, coop'⟩ := updateStatus_cooperative
    { cib with status := { cib.status.setState .completed with
      imageURLs := urls, imageSize := size, buildCompletedAt := some now } } coop
  refine ⟨c', ?_, by rw [stored]; rfl, coop'⟩
  unfold transitionToComplete
  dsimp only
  rw [written]

theorem failWith_cooperative (env : Environment) (cib : ContainerImageBuild) (err : String)
    {c : Cluster} (coop : c.Cooperative) :
    ∃ c', failWith env cib err c = (c', .error err) ∧
      c'.stored.status.state = .failed ∧ c'.Cooperative := by
  obtain ⟨c', written, stored, coop'⟩ := updateStatus_cooperative
    { cib with status := { cib.status.setState .failed with
      errorMessage := err, buildCompletedAt := some env.completedAt } } coop
  refine ⟨c', ?_, by rw [stored]; rfl, coop'⟩
  unfold failWith transitionToFailure
  dsimp only
  rw [written]

end Forge.Source.BuildJob
