import Mathlib.Data.List.AList

/-!
# The `forge.dominodatalab.com/v1alpha1` API types

Source: `api/forge/v1alpha1/containerimagebuild_types.go`, with the
Kubernetes metadata and core types those fields use.

`BuildState` is Go's `type BuildState string`: a status may hold any string,
and the four named states are constants of it. Go maps are association lists
with distinct keys (Mathlib's `AList`); timestamps are seconds; a resource
quantity is the value `resource.ParseQuantity` returns, kept opaque. Fields
that no modelled function reads (`TypeMeta`, most of `ObjectMeta`) are left
out.
-/

namespace Forge.Source.Api

/-- Go's `map[string]string`. -/
abbrev StringMap := AList fun _ : String => String

/-- `BuildState`: a Go string type. -/
structure BuildState where
  name : String
  deriving DecidableEq, Repr

namespace BuildState

/-- The zero value `""`: no state yet. -/
def unset : BuildState := ⟨""⟩
def initialized : BuildState := ⟨"Initialized"⟩
def building : BuildState := ⟨"Building"⟩
def completed : BuildState := ⟨"Completed"⟩
def failed : BuildState := ⟨"Failed"⟩

end BuildState

structure BasicAuthConfig where
  username : String
  password : String
  secretName : String
  secretNamespace : String
  deriving DecidableEq, Repr

namespace BasicAuthConfig

def isInline (auth : BasicAuthConfig) : Bool := auth.username ≠ "" && auth.password ≠ ""

def isSecret (auth : BasicAuthConfig) : Bool := auth.secretName ≠ "" && auth.secretNamespace ≠ ""

/-- `Validate`, with its error texts; the cases are tried in source order. -/
def validate (auth : BasicAuthConfig) : Except String Unit :=
  if auth.username = "" ∧ auth.password = "" ∧ auth.secretName = "" ∧ auth.secretNamespace = "" then
    .ok ()
  else if (auth.username ≠ "" ∧ auth.password = "") ∨ (auth.username = "" ∧ auth.password ≠ "") then
    .error "inline basic auth requires both username and password"
  else if (auth.secretName ≠ "" ∧ auth.secretNamespace = "") ∨
      (auth.secretName = "" ∧ auth.secretNamespace ≠ "") then
    .error "secret basic auth requires both secret name and namespace"
  else if (auth.isInline || auth.isSecret) && (auth.isInline && auth.isSecret) then
    .error "basic auth cannot be both inline and secret-based"
  else .ok ()

end BasicAuthConfig

structure Registry where
  server : String
  nonSSL : Bool
  basicAuth : BasicAuthConfig
  dynamicCloudCredentials : Bool
  deriving DecidableEq, Repr

/-- `corev1.EnvVar`, passed through unread. -/
structure EnvVar where
  name : String
  value : String
  deriving DecidableEq, Repr

structure InitContainer where
  name : String
  image : String
  command : List String
  args : List String
  env : List EnvVar
  deriving DecidableEq, Repr

/-- The value `resource.ParseQuantity` returns, by its canonical text. -/
structure Quantity where
  canonical : String
  deriving DecidableEq, Repr

/-- `corev1.ResourceList`: quantities by resource name. -/
abbrev ResourceList := AList fun _ : String => Quantity

structure ResourceRequirements where
  limits : ResourceList
  requests : ResourceList

structure ContainerImageBuildSpec where
  imageName : String
  context : String
  contextTimeoutSeconds : Nat
  pushRegistries : List String
  registries : List Registry
  buildArgs : List String
  labels : StringMap
  cpu : String
  memory : String
  resources : ResourceRequirements
  timeoutSeconds : Nat
  imageSizeLimit : Nat
  pluginData : StringMap
  disableBuildCache : Bool
  disableLayerCacheExport : Bool
  messageQueueName : String
  initContainers : List InitContainer

/-- `ContainerImageBuildStatus`; `previousState` is tagged `json:"-"`. -/
structure ContainerImageBuildStatus where
  previousState : BuildState
  state : BuildState
  imageURLs : List String
  imageSize : Nat
  errorMessage : String
  buildStartedAt : Option Int
  buildCompletedAt : Option Int
  deriving DecidableEq, Repr

/-- `SetState`: an unset state first becomes `Initialized`, which is then kept
as the previous state. -/
def ContainerImageBuildStatus.setState (s : ContainerImageBuildStatus) (state : BuildState) :
    ContainerImageBuildStatus :=
  let current := if s.state = .unset then BuildState.initialized else s.state
  { s with previousState := current, state := state }

/-- The status as its JSON encoding decodes: `PreviousState` is tagged
`json:"-"` and comes back empty; every other field comes back as it was. -/
def ContainerImageBuildStatus.persisted (s : ContainerImageBuildStatus) : ContainerImageBuildStatus :=
  { s with previousState := .unset }

/-- The `ObjectMeta` fields the controller and the build job read. -/
structure ObjectMeta where
  name : String
  /-- `Namespace` -/
  ns : String
  labels : StringMap
  annotations : StringMap
  creationTimestamp : Int
  selfLink : String

structure ContainerImageBuild where
  metadata : ObjectMeta
  spec : ContainerImageBuildSpec
  status : ContainerImageBuildStatus

end Forge.Source.Api
