import Forge.Source.BuildJob

/-!
# What a build job leaves behind

`Job.Run` writes the build's status and publishes each change.

* A persisted `Building` is not always followed by `Completed` or `Failed`
  (`build_stuck_on_publish_failure`). `updateStatus` writes the status and
  then publishes; when the publish of the `Building` update fails,
  `transitionToBuilding` returns the error and `Run` returns it at once, with
  `Building` persisted. The controller skips builds that have a state and
  collects only finished ones, so the build stays `Building`.
* The published updates do not carry the chain `Initialized → Building`
  then `Building → Completed` (`previous_state_not_published`). Each message
  is built from the object `UpdateStatus` returned, and `PreviousState` does
  not survive the JSON round trip, so every message says `previousState: ""`.

Against an API server and a producer that accept everything, every run ends
`Completed` or `Failed`, as the build itself went
(`run_finishes_when_cooperative`).
-/

namespace Forge.Guarantees.BuildJobStatus
open Forge.Source.Api Forge.Source.BuildJob

/-- After `Building` is persisted, the run ends with the build finished, or
the write of the finished state was rejected. -/
def NeverStuck : Prop :=
  ∀ (env : Environment) (name : String) (c : Cluster),
    env.getError = none → c.statusAnswers.headD none = none →
      (run env name c).1.stored.status.state = .completed ∨
      (run env name c).1.stored.status.state = .failed ∨
      (c.statusAnswers.tail.headD none).isSome

def newBuild : ContainerImageBuild where
  metadata := ⟨"build", "default", ∅, ∅, 0,
    "/apis/forge.dominodatalab.com/v1alpha1/namespaces/default/containerimagebuilds/build/status"⟩
  spec := ⟨"registry.example/app", "https://ctx.example/app.tgz", 0, [], [], [], ∅, "", "",
    ⟨∅, ∅⟩, 0, 0, ∅, false, false, "", []⟩
  status := ⟨.unset, .unset, [], 0, "", none, none⟩

def succeeding : Environment where
  getError := none
  sources := ⟨fun _ _ => .ok ∅, .ok ∅⟩
  buildAndPush := fun _ => .ok ⟨["registry.example/app:1"], 1024⟩
  startedAt := 100
  completedAt := 200

def brokerDown : Cluster := ⟨newBuild, [none, none], some [.error "connection closed"], []⟩

theorem broker_down_leaves_building :
    (run succeeding "build" brokerDown).1.stored.status.state = .building ∧
    (run succeeding "build" brokerDown).2 =
      .error "unable to publish message: connection closed" := by
  decide

theorem build_stuck_on_publish_failure : ¬ NeverStuck := by
  intro neverStuck
  have finished := neverStuck succeeding "build" brokerDown rfl rfl
  rw [broker_down_leaves_building.1] at finished
  simp [brokerDown, BuildState.building, BuildState.completed, BuildState.failed] at finished

/-- The state chains of a build's updates, as `(previousState, currentState)`. -/
def stateChains : List (List (String × String)) :=
  [[], [("Initialized", "Building")],
    [("Initialized", "Building"), ("Building", "Completed")],
    [("Initialized", "Building"), ("Building", "Failed")]]

/-- A run of a build with no state yet publishes one of the state chains. -/
def PublishesStateChain : Prop :=
  ∀ (env : Environment) (name : String) (c : Cluster),
    c.stored.status.state = .unset → c.published = [] →
      ((run env name c).1.published.map fun u => (u.previousState, u.currentState)) ∈ stateChains

def allAccepted : Cluster := ⟨newBuild, [], some [], []⟩

theorem successful_run_publishes_empty_previous :
    ((run succeeding "build" allAccepted).1.published.map fun u => (u.previousState, u.currentState)) =
      [("", "Building"), ("", "Completed")] := by
  decide

theorem previous_state_not_published : ¬ PublishesStateChain := by
  intro chains
  have allowed := chains succeeding "build" allAccepted rfl rfl
  rw [successful_run_publishes_empty_previous] at allowed
  exact absurd allowed (by decide)

/-! ## What does hold -/

/-- Against an API server that accepts every write and a producer that
accepts every message, a run ends `Completed` when the build options and the
image build succeed and `Failed` otherwise, and returns nil exactly when it
completed. -/
theorem run_finishes_when_cooperative (env : Environment) (name : String) (c : Cluster)
    (found : env.getError = none) (coop : c.Cooperative) :
    (run env name c).1.stored.status.state =
        (if (generateBuildOptions env.sources c.stored >>= env.buildAndPush).toBool
          then BuildState.completed else BuildState.failed) ∧
      (run env name c).2.toBool = (generateBuildOptions env.sources c.stored >>= env.buildAndPush).toBool := by
  obtain ⟨c₁, status, building, coop₁⟩ :=
    transitionToBuilding_cooperative env.startedAt { c.stored with status := c.stored.status.persisted } coop
  unfold run
  simp only [found, building, generateBuildOptions_status]
  cases generating : generateBuildOptions env.sources c.stored with
  | error err =>
    obtain ⟨c₂, failed, isFailed, -⟩ :=
      failWith_cooperative env { c.stored with status := status } ("failed to generate build options: " ++ err) coop₁
    simp [failed, isFailed, Except.toBool, bind, Except.bind]
  | ok opts =>
    cases pushing : env.buildAndPush opts with
    | error err =>
      obtain ⟨c₂, failed, isFailed, -⟩ := failWith_cooperative env { c.stored with status := status } err coop₁
      simp [failed, isFailed, pushing, Except.toBool, bind, Except.bind]
    | ok image =>
      obtain ⟨c₂, completed, isCompleted, -⟩ :=
        transitionToComplete_cooperative env.completedAt { c.stored with status := status }
          image.urls image.size coop₁
      simp [completed, isCompleted, pushing, Except.toBool, bind, Except.bind]

/-- A build with no state whose run every party cooperates with. -/
theorem succeeding_run_completes :
    succeeding.getError = none ∧ allAccepted.Cooperative ∧
      (run succeeding "build" allAccepted).1.stored.status.state = .completed := by
  have coop : allAccepted.Cooperative := ⟨by simp [allAccepted], by simp [allAccepted]⟩
  refine ⟨rfl, coop, ?_⟩
  rw [(run_finishes_when_cooperative succeeding "build" allAccepted rfl coop).1]
  rfl

end Forge.Guarantees.BuildJobStatus
