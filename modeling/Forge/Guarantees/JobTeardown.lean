import Forge.Source.JobSetup

/-!
# What the build command leaves behind

`New` acquires the producer's connection and the plugins' processes as it
goes, and registers the cleanup steps with the job it returns. A `New` that
fails returns no job, so nothing it acquired is ever released: the `build`
command panics holding the producer connection it opened and every process
it started (`failed_setup_releases_nothing`).

Once `New` succeeds, `Cleanup` releases each resource it acquired exactly
once. The command runs `Cleanup` a second time when a signal comes, from the
signal goroutine. Under every schedule of the two goroutines, each resource
the run acquired is released once or twice before the process exits, nothing
else is released, and the exit status is 2 only when `Run` failed
(`build_command_releases_once_or_twice`).
-/

namespace Forge.Guarantees.JobTeardown
open Forge.Source.JobSetup Forge.Source.Plugins Forge.Lib.Threads

/-! ## What `Cleanup` releases -/

/-- A successful `New` holds distinct resources, acquired in its events and
released by `Cleanup`. -/
theorem held_of_new {cfg : Config} {out : Outside} {job : Job} (setUp : (new cfg out).2 = .ok job) :
    ∃ held : List Resource, held.Nodup ∧ (new cfg out).1 = held.map .acquire ∧
      job.cleanup = held.map .release := by
  obtain ⟨opened, steps, produced, loaded, events, rfl⟩ := new_eq_ok setUp
  obtain ⟨processes, started⟩ := numbered_loadPlugins loaded
  have pluginProcesses :
      (loadPlugins out.launch cfg.preparerPluginsPath out.pluginsRoot).1.plugins.map
          (fun p => Resource.process p.process) =
        (List.range (loadPlugins out.launch cfg.preparerPluginsPath out.pluginsRoot).1.started).map
          .process := by
    rw [started, ← processes, List.map_map]
    rfl
  have distinctProcesses : ∀ n, ((List.range n).map Resource.process).Nodup := fun n =>
    (List.nodup_range).map fun _ _ same => Resource.process.inj same
  refine ⟨steps.flatten ++
    (List.range (loadPlugins out.launch cfg.preparerPluginsPath out.pluginsRoot).1.started).map .process,
    ?_, ?_, ?_⟩
  · -- the producer, if any, is not a process
    rcases newProducerStep_of_ok produced with ⟨-, -, rfl⟩ | ⟨-, -, rfl⟩
    · simpa using distinctProcesses _
    · simpa using distinctProcesses _
  · rw [events]
    rcases newProducerStep_of_ok produced with ⟨-, rfl, rfl⟩ | ⟨-, rfl, rfl⟩ <;>
      simp [startedProcesses]
  · simp [Job.cleanup, pluginProcesses]

theorem count_acquire_cleanup (held : List Resource) (r : Resource) :
    (held.map Event.release).count (.acquire r) = 0 :=
  List.count_eq_zero.mpr fun mem => by
    obtain ⟨_, -, same⟩ := List.mem_map.mp mem
    cases same

theorem count_release_acquired (held : List Resource) (r : Resource) :
    (held.map Event.acquire).count (.release r) = 0 :=
  List.count_eq_zero.mpr fun mem => by
    obtain ⟨_, -, same⟩ := List.mem_map.mp mem
    cases same

theorem count_release_cleanup (held : List Resource) (r : Resource) :
    (held.map Event.release).count (.release r) = held.count r :=
  List.count_map_of_injective held _ (fun _ _ same => Event.release.inj same) r

/-! ## The two goroutines -/

section Goroutines

variable {job : Job} {held : List Resource} (released : job.cleanup = held.map .release)
include released

theorem stays_cleanup : ∀ e ∈ job.cleanup, e.isExit = false := fun e mem => by
  rw [released] at mem
  obtain ⟨_, -, rfl⟩ := List.mem_map.mp mem
  rfl

theorem untilFirst_mainSteps (runFailed : Bool) :
    untilFirst Event.isExit (mainSteps job runFailed) = mainSteps job runFailed := by
  refine @untilFirst_of_last Event Event.isExit (.run runFailed :: job.cleanup)
    (.exit (if runFailed then 2 else 0)) ?_ rfl
  intro e mem
  rcases List.mem_cons.mp mem with rfl | mem
  · rfl
  · exact stays_cleanup released e mem

theorem eq_signalSteps_of_exit {run : List Event} (shorter : run <+: signalSteps job)
    (exited : ∃ a ∈ run, a.isExit = true) : run = signalSteps job := by
  refine @eq_of_prefix_of_exit Event Event.isExit (.receive :: job.cleanup) (.exit 0) run ?_ shorter exited
  intro e mem
  rcases List.mem_cons.mp mem with rfl | mem
  · rfl
  · exact stays_cleanup released e mem

theorem counts_mainSteps (runFailed : Bool) (r : Resource) :
    (mainSteps job runFailed).count (.release r) = held.count r ∧
      (mainSteps job runFailed).count (.acquire r) = 0 := by
  simp [mainSteps, released, count_release_cleanup, count_acquire_cleanup]

theorem counts_signalSteps (r : Resource) :
    (signalSteps job).count (.release r) = held.count r ∧ (signalSteps job).count (.acquire r) = 0 := by
  simp [signalSteps, released, count_release_cleanup, count_acquire_cleanup]

theorem status_of_exit_mem {runFailed : Bool} {status : Nat}
    (mem : Event.exit status ∈ mainSteps job runFailed ∨ Event.exit status ∈ signalSteps job) :
    status = 2 → runFailed = true := by
  have notCleanup : Event.exit status ∉ job.cleanup := fun inCleanup => by
    have := stays_cleanup released _ inCleanup
    cases this
  have lastStep : ∀ {first : Event} {final : Nat},
      Event.exit status ∈ first :: job.cleanup ++ [.exit final] → first.isExit = false → status = final := by
    intro first final inSteps stays
    rcases List.mem_append.mp inSteps with early | last
    · rcases List.mem_cons.mp early with same | inCleanup
      · rw [← same] at stays
        cases stays
      · exact absurd inCleanup notCleanup
    · exact Event.exit.inj (List.mem_singleton.mp last)
  intro two
  rcases mem with mem | mem
  · have finalStatus := lastStep mem rfl
    cases runFailed
    · simp only [Bool.false_eq_true, ↓reduceIte] at finalStatus
      omega
    · rfl
  · have finalStatus := lastStep mem rfl
    omega

end Goroutines

/-! ## Runs of the `build` command -/

/-- Under every schedule of the two goroutines after a successful `New`, the
run ends with an exit, of status 2 only when `Run` failed, and releases each
resource it acquired once or twice, and nothing else. -/
theorem build_command_releases_once_or_twice {cfg : Config} {out : Outside} {job : Job}
    (setUp : (new cfg out).2 = .ok job) {runFailed : Bool} {trace : List Event}
    (ran : BuildRun cfg out runFailed trace) :
    (∃ status, trace.getLast? = some (.exit status) ∧ (status = 2 → runFailed = true)) ∧
      ∀ r, trace.count (.acquire r) ≤ 1 ∧ trace.count (.acquire r) ≤ trace.count (.release r) ∧
        trace.count (.release r) ≤ 2 * trace.count (.acquire r) := by
  obtain ⟨held, distinct, acquired, released⟩ := held_of_new setUp
  have outcome : new cfg out = ((new cfg out).1, .ok job) := Prod.ext rfl setUp
  unfold BuildRun at ran
  rw [outcome] at ran
  obtain ⟨received, schedule, signalled, merged, rfl⟩ := ran
  have mainExits : ∃ a ∈ mainSteps job runFailed, a.isExit = true :=
    ⟨.exit (if runFailed then 2 else 0), by simp [mainSteps], rfl⟩
  obtain ⟨mainRan, signalRan, ranMain, ranSignal, cut, whole⟩ :=
    merged.exists_untilFirst Event.isExit mainExits
  have signalShorter : signalRan <+: signalSteps job := ranSignal.trans signalled
  constructor
  · -- the last step is the first exit of the schedule, one of a goroutine's exits
    obtain ⟨last, isLast, exits⟩ := @getLast?_untilFirst Event Event.isExit schedule
      (mainExits.imp fun a ⟨mem, exits⟩ => ⟨merged.mem_of_left mem, exits⟩)
    have inCut : last ∈ untilFirst Event.isExit schedule := List.mem_of_getLast? isLast
    cases last with
    | exit status =>
      refine ⟨status, by rw [List.getLast?_append, isLast]; rfl, status_of_exit_mem released ?_⟩
      exact (cut.mem_or inCut).imp (ranMain.subset ·) (signalShorter.subset ·)
    | acquire r | release r | run failed | receive => cases exits
  · intro r
    obtain ⟨mainReleases, mainAcquires⟩ := counts_mainSteps released runFailed r
    obtain ⟨signalReleases, signalAcquires⟩ := counts_signalSteps released r
    have once : held.count r ≤ 1 := List.nodup_iff_count_le_one.mp distinct r
    have acquiredOnce : (held.map Event.acquire).count (.acquire r) = held.count r :=
      List.count_map_of_injective held _ (fun _ _ same => Event.acquire.inj same) r
    have mainBound := fun e => (ranMain.sublist.count_le e)
    have signalBound := fun e => (signalShorter.sublist.count_le e)
    have wholeCleanup : mainRan.count (.release r) = held.count r ∨
        signalRan.count (.release r) = held.count r := by
      rcases whole with same | ⟨same, exited⟩
      · left
        rw [same, untilFirst_mainSteps released, mainReleases]
      · right
        rw [eq_signalSteps_of_exit released signalShorter exited, signalReleases]
    have mainAcquireBound := mainBound (.acquire r)
    have signalAcquireBound := signalBound (.acquire r)
    have mainReleaseBound := mainBound (.release r)
    have signalReleaseBound := signalBound (.release r)
    have traceAcquires :
        ((new cfg out).1 ++ untilFirst Event.isExit schedule).count (.acquire r) = held.count r := by
      rw [List.count_append, acquired, acquiredOnce, cut.count_eq (.acquire r)]
      omega
    have traceReleases : ((new cfg out).1 ++ untilFirst Event.isExit schedule).count (.release r) =
        mainRan.count (.release r) + signalRan.count (.release r) := by
      rw [List.count_append, acquired, count_release_acquired, cut.count_eq (.release r), Nat.zero_add]
    rw [traceAcquires, traceReleases]
    omega

/-! ## Two runs -/

def quietPlugin : Preparer := ⟨fun _ _ => .ok (), .ok ()⟩

def brokerConfig : Config := ⟨some ⟨"amqp", "amqp://broker:5672", "builds"⟩, "/plugins"⟩

def onePluginConfig : Config := ⟨none, "/plugins"⟩

def onePlugin : Outside where
  loadKubernetesConfig := .ok ()
  kubernetesClient := .ok ()
  forgeClient := .ok ()
  dials := []
  pluginsRoot := some (.dir [("a", .file)])
  launch := fun _ => .served quietPlugin fun _ => none
  buildkitClient := .ok ()

/-- A run in which the signal comes while `Run` is going: both goroutines
kill the plugin, and the signal goroutine exits first. -/
def signalledRun : List Event :=
  [.acquire (.process 0), .run false, .receive, .release (.process 0), .release (.process 0), .exit 0]

theorem signal_during_run_kills_twice :
    ∃ job, (new onePluginConfig onePlugin).2 = .ok job ∧ BuildRun onePluginConfig onePlugin false signalledRun ∧
      signalledRun.count (.release (.process 0)) = 2 ∧
      (∃ status, signalledRun.getLast? = some (.exit status) ∧ (status = 2 → false = true)) ∧
      ∀ r, signalledRun.count (.acquire r) ≤ 1 ∧ signalledRun.count (.acquire r) ≤ signalledRun.count (.release r) ∧
        signalledRun.count (.release r) ≤ 2 * signalledRun.count (.acquire r) := by
  obtain ⟨job, setUp⟩ : ∃ job, (new onePluginConfig onePlugin).2 = .ok job := ⟨_, rfl⟩
  have ran : BuildRun onePluginConfig onePlugin false signalledRun :=
    ⟨_, _, List.prefix_rfl, .left (.right (.left (.right (.right (.left .nil))))), rfl⟩
  exact ⟨job, setUp, ran, by decide, build_command_releases_once_or_twice setUp ran⟩

end Forge.Guarantees.JobTeardown
