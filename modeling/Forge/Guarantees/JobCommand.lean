import Forge.Source.JobResources
import Forge.Lib.Shell

/-!
# The build job's shell command

The build container runs `/bin/sh -c` on the one string `prepareJobArgs`
joins. The shell does not always parse that string back into the intended
argument vector, one word per value (`job_command_splits_values`):
`prepareJobArgs` joins the values with single spaces and quotes none of them,
so a value holding a blank is split into two words by token recognition. A
`messageQueueName` of `my queue` (a user-set field of the build) makes the
shell run `... --amqp-queue=my queue` with `queue` as an extra argument.

What does hold: when Istio support is off and every argument is made of
plain characters (`Forge.Lib.Shell.isPlainChar`), the shell runs exactly the
intended argument vector (`job_command_runs_plain_values`).
-/

namespace Forge.Guarantees.JobCommand
open Forge.Source.Api Forge.Source.JobResources Forge.Lib.Shell

/-- The argument vector the build job is meant to run. -/
def intendedArgv (cfg : BuildJobConfig) (cib : ContainerImageBuild) : List String :=
  (if cfg.grantFullPrivilege then [] else [rootlesskitCommand]) ++
    [forgeCommand, "build", "--resource=" ++ cib.metadata.name,
      "--enable-layer-caching=" ++ formatBool cfg.enableLayerCaching] ++
    (if cfg.preparerPluginPath ≠ "" then ["--preparer-plugins-path=" ++ cfg.preparerPluginPath]
      else []) ++
    match cfg.brokerOpts with
    | some opts =>
      ["--message-broker=" ++ opts.broker, "--amqp-uri=" ++ opts.amqpURI,
        "--amqp-queue=" ++ if cib.spec.messageQueueName ≠ "" then cib.spec.messageQueueName
          else opts.amqpQueue]
    | none => []

/-- The `-c` string is a command line, followed by the fixed Istio suffix when
that support is on, which the shell runs as exactly one simple command with
the intended argument vector. -/
def JobCommandRoundTrips : Prop :=
  ∀ (cfg : BuildJobConfig) (cib : ContainerImageBuild), ∃ line : String,
    prepareJobArgs cfg cib =
      ["-c", line ++ if cfg.enableIstioSupport then " " ++ istioCmdArg else ""] ∧
    argv line.toList = some ((intendedArgv cfg cib).map String.toList)

def brokerConfig : BuildJobConfig where
  image := "forge"
  imagePullSecret := ""
  customCAConfigMap := ""
  preparerPluginPath := ""
  labels := ∅
  annotations := ∅
  nodeSelector := ∅
  tolerationKey := ""
  grantFullPrivilege := false
  enableLayerCaching := false
  podSecurityPolicy := ""
  securityContextConstraints := ""
  brokerOpts := some ⟨"amqp", "amqp://rabbitmq:5672", "forge"⟩
  volumes := []
  volumeMounts := []
  envVar := []
  enableIstioSupport := false
  dynamicVolumes := []
  dynamicVolumeMounts := []

def blankQueueBuild : ContainerImageBuild where
  metadata := ⟨"build", "default", ∅, ∅, 0, ""⟩
  spec := ⟨"image", "", 0, [], [], [], ∅, "", "", ⟨∅, ∅⟩, 0, 0, ∅, false, false, "my queue", []⟩
  status := ⟨.unset, .unset, [], 0, "", none, none⟩

def blankQueueLine : String :=
  "rootlesskit /usr/bin/forge build --resource=build --enable-layer-caching=false " ++
    "--message-broker=amqp --amqp-uri=amqp://rabbitmq:5672 --amqp-queue=my queue"

theorem blank_queue_args :
    prepareJobArgs brokerConfig blankQueueBuild = ["-c", blankQueueLine] := by
  decide +kernel

theorem blank_queue_argv :
    argv blankQueueLine.toList = some (["rootlesskit", "/usr/bin/forge", "build",
      "--resource=build", "--enable-layer-caching=false", "--message-broker=amqp",
      "--amqp-uri=amqp://rabbitmq:5672", "--amqp-queue=my", "queue"].map String.toList) := by
  have joined : blankQueueLine = " ".intercalate ["rootlesskit", "/usr/bin/forge", "build",
      "--resource=build", "--enable-layer-caching=false", "--message-broker=amqp",
      "--amqp-uri=amqp://rabbitmq:5672", "--amqp-queue=my", "queue"] := by
    decide +kernel
  rw [joined, String.toList_intercalate, List.map_cons]
  exact argv_intercalate _ _ (plainWords_of_check (by decide +kernel)) (by decide) (by decide)

theorem job_command_splits_values : ¬ JobCommandRoundTrips := by
  intro roundTrips
  obtain ⟨line, joined, parsed⟩ := roundTrips brokerConfig blankQueueBuild
  have same : line = blankQueueLine := by
    rw [blank_queue_args] at joined
    simpa [brokerConfig] using joined.symm
  rw [same, blank_queue_argv] at parsed
  exact absurd parsed (by decide +kernel)

/-! ## What does hold -/

theorem prepareJobArgs_of_istio_off (cfg : BuildJobConfig) (cib : ContainerImageBuild)
    (noIstio : cfg.enableIstioSupport = false) :
    prepareJobArgs cfg cib = ["-c", " ".intercalate (intendedArgv cfg cib)] := by
  simp only [prepareJobArgs, intendedArgv, noIstio, Bool.false_eq_true, if_false]
  cases cfg.grantFullPrivilege <;> cases cfg.brokerOpts <;>
    simp only [Bool.not_false, Bool.not_true, Bool.false_eq_true, if_true, if_false] <;>
    split_ifs <;> simp

theorem intendedArgv_ne_empty (cfg : BuildJobConfig) (cib : ContainerImageBuild) :
    ∀ arg ∈ intendedArgv cfg cib, arg.toList ≠ [] := by
  simp only [intendedArgv]
  cases cfg.grantFullPrivilege <;> cases cfg.brokerOpts <;> split_ifs <;>
    simp [rootlesskitCommand, forgeCommand]

theorem intendedArgv_eq_cons (cfg : BuildJobConfig) (cib : ContainerImageBuild) :
    ∃ rest, intendedArgv cfg cib =
      (if cfg.grantFullPrivilege then forgeCommand else rootlesskitCommand) :: rest := by
  unfold intendedArgv
  cases cfg.grantFullPrivilege <;> simp

theorem command_word_literal (privileged : Bool) :
    let command := unquoted (if privileged then forgeCommand else rootlesskitCommand).toList
    isReserved command = false ∧ isAssignment command = false := by
  cases privileged <;> decide

/-- With Istio support off and every argument made of plain characters, the
shell runs exactly the intended argument vector. -/
theorem job_command_runs_plain_values (cfg : BuildJobConfig) (cib : ContainerImageBuild)
    (noIstio : cfg.enableIstioSupport = false)
    (plain : ∀ arg ∈ intendedArgv cfg cib, ∀ c ∈ arg.toList, isPlainChar c) :
    prepareJobArgs cfg cib = ["-c", " ".intercalate (intendedArgv cfg cib)] ∧
      argv (" ".intercalate (intendedArgv cfg cib)).toList =
        some ((intendedArgv cfg cib).map String.toList) := by
  refine ⟨prepareJobArgs_of_istio_off cfg cib noIstio, ?_⟩
  have words : ∀ w ∈ (intendedArgv cfg cib).map String.toList, w ≠ [] ∧ ∀ c ∈ w, isPlainChar c := by
    intro w mem
    obtain ⟨arg, mem', rfl⟩ := List.mem_map.mp mem
    exact ⟨intendedArgv_ne_empty cfg cib arg mem', plain arg mem'⟩
  obtain ⟨rest, starts⟩ := intendedArgv_eq_cons cfg cib
  obtain ⟨notReserved, notAssignment⟩ := command_word_literal cfg.grantFullPrivilege
  simp only [String.toList_intercalate]
  rw [starts] at words ⊢
  rw [List.map_cons] at words ⊢
  exact argv_intercalate _ _ words notReserved notAssignment

def plainQueueBuild : ContainerImageBuild :=
  { blankQueueBuild with spec := { blankQueueBuild.spec with messageQueueName := "my-queue" } }

theorem plain_queue_runs_intended :
    brokerConfig.enableIstioSupport = false ∧
      (∀ arg ∈ intendedArgv brokerConfig plainQueueBuild, ∀ c ∈ arg.toList, isPlainChar c) ∧
      argv (" ".intercalate (intendedArgv brokerConfig plainQueueBuild)).toList =
        some ((intendedArgv brokerConfig plainQueueBuild).map String.toList) := by
  have plain : ∀ arg ∈ intendedArgv brokerConfig plainQueueBuild, ∀ c ∈ arg.toList, isPlainChar c := by
    have checked : (intendedArgv brokerConfig plainQueueBuild).all
        (fun arg => arg.toList.all isPlainChar) = true := by
      decide +kernel
    simpa [List.all_eq_true] using checked
  exact ⟨rfl, plain, (job_command_runs_plain_values brokerConfig plainQueueBuild rfl plain).2⟩

end Forge.Guarantees.JobCommand
