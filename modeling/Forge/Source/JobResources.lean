import Forge.Source.Api
import Forge.Source.Cloud

/-!
# Build job resources of the controller

Source: `controllers/containerimagebuild_resources.go`: the prerequisites a
build needs (`checkPrerequisites` and its four checks), the reconciler-wide
dynamic volumes `checkCloudRegistrySecrets` appends, the Job that
`createJobForBuild` constructs, and its shell command `prepareJobArgs`.

The reconciler's mutable state is its `BuildJobConfig`; every function that
may change it returns the new configuration. The API server is a `Client`
whose answers are arbitrary, and `resource.ParseQuantity` is a parameter.
`RetrieveAuthorization` runs the cloud dispatch of `Forge.Source.Cloud`, with
the map iteration order of each call given by `visit`. The JSON document of
the credentials secret is represented by the map it encodes.
-/

namespace Forge.Source.JobResources
open Forge.Lib.Regex Forge.Source.Api Forge.Source.Cloud

/-! ## Constants -/

def rootlesskitCommand : String := "rootlesskit"
def forgeCommand : String := "/usr/bin/forge"
def cloudCredentialsID : String := "dynamic-cloud-credentials"
def istioCmdArg : String :=
  "\nEXIT_CODE=$?; wget -qO- --post-data \"\" http://localhost:15020/quitquitquit; exit $EXIT_CODE"
def buildContextDirVolumeName : String := "build-context-dir"
def stateDirVolumeName : String := "state-dir"

def buildContextPath : String := "/mnt/build"
def dynamicCredentialsPath : String := "/tmp/docker"
def dynamicCredentialsFilename : String := "config.json"
def dockerConfigJsonKey : String := ".dockerconfigjson"

/-! ## Kubernetes objects -/

/-- The source of a `corev1.Volume`; volumes of the operator's advanced
configuration are passed through unread. -/
inductive VolumeSource where
  | emptyDir
  | secret (secretName : String) (items : List (String × String))
  | configMap (name : String)
  | configured (description : String)
  deriving DecidableEq, Repr

structure Volume where
  name : String
  source : VolumeSource
  deriving DecidableEq, Repr

structure VolumeMount where
  name : String
  mountPath : String
  readOnly : Bool
  deriving DecidableEq, Repr

/-- `message.Options`. -/
structure BrokerOptions where
  broker : String
  amqpURI : String
  amqpQueue : String
  deriving DecidableEq, Repr

structure BuildJobConfig where
  image : String
  imagePullSecret : String
  customCAConfigMap : String
  preparerPluginPath : String
  labels : StringMap
  annotations : StringMap
  nodeSelector : StringMap
  tolerationKey : String
  grantFullPrivilege : Bool
  enableLayerCaching : Bool
  podSecurityPolicy : String
  securityContextConstraints : String
  brokerOpts : Option BrokerOptions
  volumes : List Volume
  volumeMounts : List VolumeMount
  envVar : List EnvVar
  enableIstioSupport : Bool
  dynamicVolumes : List Volume
  dynamicVolumeMounts : List VolumeMount

structure PolicyRule where
  apiGroups : List String
  resources : List String
  verbs : List String
  resourceNames : List String
  deriving DecidableEq, Repr

/-- The metadata the controller gives every object it owns. -/
structure OwnedMeta where
  name : String
  ns : String
  labels : StringMap

/-- `corev1.SecurityContext` fields the controller sets. -/
structure SecurityContext where
  runAsUser : Option Int
  privileged : Option Bool
  seLinuxType : Option String
  deriving DecidableEq, Repr

/-- An init container of the build pod. -/
structure PodInitContainer where
  name : String
  image : String
  command : List String
  args : List String
  env : List EnvVar
  runAsUser : Option Int
  workingDir : String
  volumeMounts : List VolumeMount

/-- The `forge-build` container. -/
structure BuildContainer where
  image : String
  command : List String
  args : List String
  env : List EnvVar
  securityContext : SecurityContext
  volumeMounts : List VolumeMount
  resources : ResourceRequirements

/-- `batchv1.Job` with the pod template the controller fills. -/
structure Job where
  metadata : OwnedMeta
  podLabels : StringMap
  podAnnotations : StringMap
  serviceAccountName : String
  nodeSelector : StringMap
  initContainers : List PodInitContainer
  fsGroup : Option Int
  imagePullSecrets : List String
  tolerations : List String
  container : BuildContainer
  volumes : List Volume

/-- The objects `withOwnedResource` creates. -/
inductive Object where
  | serviceAccount (metadata : OwnedMeta)
  | role (metadata : OwnedMeta) (rules : List PolicyRule)
  | roleBinding (metadata : OwnedMeta)
  /-- a `kubernetes.io/dockerconfigjson` secret holding `{"auths": …}` -/
  | secret (metadata : OwnedMeta) (auths : List (String × AuthConfig))
  | job (job : Job)

/-- What `Get` of an object's key answers. -/
inductive Fetched (α : Type) where
  | found (value : α)
  | notFound
  | failed (message : String)

/-- The API server during one reconcile: `Get` of the build and of each
owned object, `SetControllerReference`, and `Create`. -/
structure Client where
  getBuild : Fetched ContainerImageBuild
  get : Object → Fetched Unit
  setControllerReference : Object → Except String Unit
  create : Object → Except String Unit

/-- How a step of a reconcile ends: normally, with an error, or with a
runtime panic (which the manager does not recover). -/
inductive Outcome (α : Type) where
  | ok (value : α)
  | error (message : String)
  | panic
  deriving DecidableEq, Repr

/-! ## Prerequisites -/

def ownedMeta (cib : ContainerImageBuild) : OwnedMeta :=
  ⟨cib.metadata.name, cib.metadata.ns, cib.metadata.labels⟩

/-- `withOwnedResource`: create the object unless `Get` finds it. -/
def withOwnedResource (client : Client) (obj : Object) : Except String Unit :=
  match client.get obj with
  | .found () => .ok ()
  | .failed message => .error message
  | .notFound =>
    match client.setControllerReference obj with
    | .error message => .error message
    | .ok () => client.create obj

/-- The rules of the build role, with the optional PSP and SCC rules. -/
def roleRules (cfg : BuildJobConfig) : List PolicyRule :=
  let base := [⟨["forge.dominodatalab.com"], ["containerimagebuilds"], ["get"], []⟩,
    ⟨["forge.dominodatalab.com"], ["containerimagebuilds/status"], ["update"], []⟩,
    ⟨[""], ["secrets"], ["get"], []⟩]
  let withPsp := if cfg.podSecurityPolicy ≠ "" then
      base ++ [⟨["policy"], ["podsecuritypolicies"], ["use"], [cfg.podSecurityPolicy]⟩]
    else base
  if cfg.securityContextConstraints ≠ "" then
    withPsp ++ [⟨["security.openshift.io"], ["securitycontextconstraints"], ["use"],
      [cfg.securityContextConstraints]⟩]
  else withPsp

def checkServiceAccount (client : Client) (cib : ContainerImageBuild) : Except String Unit :=
  withOwnedResource client (.serviceAccount (ownedMeta cib))

def checkRole (client : Client) (cfg : BuildJobConfig) (cib : ContainerImageBuild) :
    Except String Unit :=
  withOwnedResource client (.role (ownedMeta cib) (roleRules cfg))

def checkRoleBinding (client : Client) (cib : ContainerImageBuild) : Except String Unit :=
  withOwnedResource client (.roleBinding (ownedMeta cib))

/-- The secret name `<build>-dynamic-cloud-credentials`. -/
def cloudCredentialsSecretName (cib : ContainerImageBuild) : String :=
  cib.metadata.name ++ "-" ++ cloudCredentialsID

/-- The volume and mount that hand the credentials secret to the build. -/
def cloudCredentialsVolume (cib : ContainerImageBuild) : Volume :=
  ⟨cloudCredentialsID, .secret (cloudCredentialsSecretName cib)
    [(dockerConfigJsonKey, dynamicCredentialsFilename)]⟩

def cloudCredentialsMount : VolumeMount := ⟨cloudCredentialsID, dynamicCredentialsPath, true⟩

/-- `auths[server] = ac`. -/
def setAuth (auths : List (String × AuthConfig)) (server : String) (ac : AuthConfig) :
    List (String × AuthConfig) :=
  if auths.any (·.1 = server) then auths.map fun e => if e.1 = server then (server, ac) else e
  else auths ++ [(server, ac)]

/-- The loop over the registries marked for dynamic credentials: the i-th
`RetrieveAuthorization` call visits the loaders in the order `visit i`. A
loader's `(nil, nil)` is dereferenced, and a panic in a loader propagates. -/
def collectCloudAuths (registry : Cloud.Registry) (visit : Nat → List (Regexp Char × AuthLoader)) :
    Nat → List Api.Registry → List (String × AuthConfig) → Outcome (List (String × AuthConfig))
  | _, [], auths => .ok auths
  | call, reg :: regs, auths =>
    if !reg.dynamicCloudCredentials then collectCloudAuths registry visit call regs auths
    else match (retrieveAuthorization (visit call) reg.server).result with
      | .error (.challenge .indexOutOfRange) => .panic
      | .error e => .error (reprStr e)
      | .ok none => .panic
      | .ok (some ac) => collectCloudAuths registry visit (call + 1) regs (setAuth auths reg.server ac)

/-- `checkCloudRegistrySecrets`: when some registry asks for dynamic
credentials, create the secret and append its volume and mount to the
reconciler-wide configuration. -/
def checkCloudRegistrySecrets (client : Client) (registry : Cloud.Registry)
    (visit : Nat → List (Regexp Char × AuthLoader)) (cfg : BuildJobConfig)
    (cib : ContainerImageBuild) : Outcome BuildJobConfig :=
  match collectCloudAuths registry visit 0 cib.spec.registries [] with
  | .error message => .error message
  | .panic => .panic
  | .ok auths =>
    if auths = [] then .ok cfg
    else
      let secret := Object.secret ⟨cloudCredentialsSecretName cib, cib.metadata.ns,
        cib.metadata.labels⟩ auths
      match withOwnedResource client secret with
      | .error message => .error message
      | .ok () => .ok { cfg with
          dynamicVolumes := cfg.dynamicVolumes ++ [cloudCredentialsVolume cib]
          dynamicVolumeMounts := cfg.dynamicVolumeMounts ++ [cloudCredentialsMount] }

/-- Lift an API error into a reconcile outcome. -/
def Outcome.ofExcept {α : Type} : Except String α → Outcome α
  | .ok value => .ok value
  | .error message => .error message

/-- `checkPrerequisites`: the four checks in order; the first error ends it. -/
def checkPrerequisites (client : Client) (registry : Cloud.Registry)
    (visit : Nat → List (Regexp Char × AuthLoader)) (cfg : BuildJobConfig)
    (cib : ContainerImageBuild) : Outcome BuildJobConfig :=
  match checkServiceAccount client cib with
  | .error message => .error message
  | .ok () =>
    match checkRole client cfg cib with
    | .error message => .error message
    | .ok () =>
      match checkRoleBinding client cib with
      | .error message => .error message
      | .ok () => checkCloudRegistrySecrets client registry visit cfg cib

/-! ## The build job -/

/-- `fmt.Sprintf("%t", b)`. -/
def formatBool (b : Bool) : String := if b then "true" else "false"

/-- `prepareJobArgs`: the arguments of `/bin/sh`, a `-c` and the command
line joined with spaces. -/
def prepareJobArgs (cfg : BuildJobConfig) (cib : ContainerImageBuild) : List String :=
  let args := [forgeCommand, "build", "--resource=" ++ cib.metadata.name,
    "--enable-layer-caching=" ++ formatBool cfg.enableLayerCaching]
  let args := if cfg.preparerPluginPath ≠ "" then
      args ++ ["--preparer-plugins-path=" ++ cfg.preparerPluginPath]
    else args
  let args := match cfg.brokerOpts with
    | some opts =>
      let queueName := if cib.spec.messageQueueName ≠ "" then cib.spec.messageQueueName
        else opts.amqpQueue
      args ++ ["--message-broker=" ++ opts.broker, "--amqp-uri=" ++ opts.amqpURI,
        "--amqp-queue=" ++ queueName]
    | none => args
  let args := if !cfg.grantFullPrivilege then rootlesskitCommand :: args else args
  let args := if cfg.enableIstioSupport then args ++ [istioCmdArg] else args
  ["-c", String.intercalate " " args]

/-- Insert every entry of `extra` into `base`, overwriting. -/
def mergeInto (base extra : StringMap) : StringMap :=
  extra.entries.foldl (fun m e => m.insert e.1 e.2) base

/-- The volumes of the build pod. -/
def jobVolumes (cfg : BuildJobConfig) : List Volume :=
  [⟨buildContextDirVolumeName, .emptyDir⟩, ⟨stateDirVolumeName, .emptyDir⟩] ++ cfg.volumes ++
    cfg.dynamicVolumes ++
    (if cfg.customCAConfigMap ≠ "" then [⟨"ca-bundle", .configMap cfg.customCAConfigMap⟩] else [])

/-- The volume mounts of the build container; `stateDir` is `config.GetStateDir()`. -/
def jobVolumeMounts (cfg : BuildJobConfig) (stateDir : String) : List VolumeMount :=
  [⟨buildContextDirVolumeName, buildContextPath, false⟩, ⟨stateDirVolumeName, stateDir, false⟩] ++
    cfg.volumeMounts ++ cfg.dynamicVolumeMounts ++
    (if cfg.customCAConfigMap ≠ "" then [⟨"ca-bundle", "/etc/ssl/certs", true⟩] else [])

/-- The resources of the build container: the spec's, with `cpu` and
`memory` parsed into both limits and requests. -/
def jobResources (parseQuantity : String → Except String Quantity) (cib : ContainerImageBuild) :
    Except String ResourceRequirements := do
  let resources := cib.spec.resources
  let resources ← if cib.spec.cpu ≠ "" then
      match parseQuantity cib.spec.cpu with
      | .error e => .error ("could not parse `cpu` field: " ++ cib.spec.cpu ++ ": " ++ e)
      | .ok cpu => .ok ⟨resources.limits.insert "cpu" cpu, resources.requests.insert "cpu" cpu⟩
    else .ok resources
  if cib.spec.memory ≠ "" then
    match parseQuantity cib.spec.memory with
    | .error e => .error ("could not parse `memory` field: " ++ cib.spec.memory ++ ": " ++ e)
    | .ok memory =>
      .ok ⟨resources.limits.insert "memory" memory, resources.requests.insert "memory" memory⟩
  else .ok resources

/-- The Job `createJobForBuild` constructs from the current configuration. -/
def buildJob (cfg : BuildJobConfig) (stateDir : String) (cib : ContainerImageBuild)
    (resources : ResourceRequirements) : Job :=
  let privileged := cfg.grantFullPrivilege
  let runAsUser : Int := if privileged then 0 else 1000
  let podLabels := mergeInto cib.metadata.labels cfg.labels
  let apparmor : StringMap :=
    (((∅ : StringMap).insert "container.apparmor.security.beta.kubernetes.io/forge-build"
      "unconfined").insert "container.seccomp.security.alpha.kubernetes.io/forge-build"
      "unconfined")
  { metadata :=
      -- the Job shares the build's label map, which the pod label loop fills,
      -- unless the build has none and the loop filled a fresh map
      ⟨cib.metadata.name, cib.metadata.ns,
        if cib.metadata.labels.entries = [] then cib.metadata.labels else podLabels⟩
    podLabels := podLabels
    podAnnotations := mergeInto (mergeInto apparmor cib.metadata.annotations) cfg.annotations
    serviceAccountName := cib.metadata.name
    nodeSelector := cfg.nodeSelector
    initContainers := cib.spec.initContainers.map fun c =>
      ⟨c.name, c.image, c.command, c.args, c.env, some runAsUser, buildContextPath,
        [⟨buildContextDirVolumeName, buildContextPath, false⟩]⟩
    fsGroup := if privileged then none else some 1000
    imagePullSecrets := if cfg.imagePullSecret ≠ "" then [cfg.imagePullSecret] else []
    tolerations := if cfg.tolerationKey ≠ "" then [cfg.tolerationKey] else []
    container :=
      { image := cfg.image
        command := ["/bin/sh"]
        args := prepareJobArgs cfg cib
        env := cfg.envVar
        securityContext := ⟨some runAsUser, if privileged then some true else none, some "spc_t"⟩
        volumeMounts := jobVolumeMounts cfg stateDir
        resources := resources }
    volumes := jobVolumes cfg }

/-- The configuration after `createJobForBuild`'s deferred reset. -/
def resetDynamic (cfg : BuildJobConfig) : BuildJobConfig :=
  { cfg with dynamicVolumes := [], dynamicVolumeMounts := [] }

/-- `createJobForBuild`: the deferred reset runs on every return. -/
def createJobForBuild (client : Client) (parseQuantity : String → Except String Quantity)
    (stateDir : String) (cfg : BuildJobConfig) (cib : ContainerImageBuild) :
    Except String Unit × BuildJobConfig :=
  match jobResources parseQuantity cib with
  | .error message => (.error message, resetDynamic cfg)
  | .ok resources =>
    (withOwnedResource client (.job (buildJob cfg stateDir cib resources)), resetDynamic cfg)

end Forge.Source.JobResources
