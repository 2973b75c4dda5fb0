import Forge.Guarantees.CompletedBuild
import Forge.Source.Reconciler

/-!
# The build lifecycle across the job and the controller

`Job.Run` writes the build's status at most twice: `Building`, and then
`Completed` or `Failed`. Each write the API server accepts is published as one
`StatusUpdate` when a producer is configured. So, whatever the API server and
the producer answer, the messages of a run are a prefix of that lifecycle, each
about the build as the API server stores it, and a run that returns without
error has published the whole of it (`run_publishes_lifecycle`).

A run changes nothing of the stored build but its status, and when it changes
the status its state is no longer empty. `Reconcile` skips such a build, so
once a job has recorded its build as started, the controller builds no Job for
it again (`started_build_is_not_reconciled`). The two components agree only
through the build the API server stores; that is the whole of the model here.
-/

namespace Forge.Guarantees.BuildLifecycle
open Forge.Source.Api Forge.Source.BuildJob Forge.Source.Reconciler Forge.Guarantees.CompletedBuild

/-! ## What one status write does -/

/-- What a publish of `update` can do to the messages: append `update` or
nothing, and nothing without a producer. -/
structure Sends (update : StatusUpdate) (c c' : Cluster) : Prop where
  producer : c'.pushAnswers.isSome = c.pushAnswers.isSome
  appends : c'.published = c.published ∨ c'.published = c.published ++ [update]
  silent : c.pushAnswers = none → c'.published = c.published

/-- What a write of `status` can do: store it on the build, and publish the
build so stored. -/
structure Writes (status : ContainerImageBuildStatus) (c c' : Cluster) : Prop where
  stored : c'.stored = c.stored ∨ c'.stored = { c.stored with status := status }
  sends : Sends (statusUpdate { c.stored with status := status }) c c'

/-- A write that returned stored its status and, with a producer, published it. -/
structure Delivers (status : ContainerImageBuildStatus) (c c' : Cluster) : Prop extends Writes status c c' where
  written : c'.stored = { c.stored with status := status }
  announced : c.pushAnswers.isSome → c'.published = c.published ++ [statusUpdate { c.stored with status := status }]

theorem publish_sends (update : StatusUpdate) (c : Cluster) : Sends update c (publish update c).1 := by
  unfold publish
  split
  · exact ⟨rfl, .inl rfl, fun _ => rfl⟩
  · rename_i answers configured
    have producer : c.pushAnswers.isSome = true := by rw [configured]; rfl
    split
    · exact ⟨producer.symm ▸ rfl, .inl rfl, fun absent => by simp [absent] at configured⟩
    · exact ⟨producer.symm ▸ rfl, .inr rfl, fun absent => by simp [absent] at configured⟩

theorem publish_announced {update : StatusUpdate} {c : Cluster} (returned : (publish update c).2 = .ok ())
    (producer : c.pushAnswers.isSome) : (publish update c).1.published = c.published ++ [update] := by
  unfold publish at returned ⊢
  split at returned
  · rename_i absent
    simp [absent] at producer
  · split at returned
    · cases returned
    · rfl

theorem updateStatus_writes (cib : ContainerImageBuild) (c : Cluster) :
    Writes cib.status.persisted c (updateStatus cib c).1 := by
  unfold updateStatus
  split
  · exact ⟨.inl rfl, rfl, .inl rfl, fun _ => rfl⟩
  · -- the stored build is written, then its message goes to the producer
    dsimp only
    have sent := publish_sends (statusUpdate { c.stored with status := cib.status.persisted })
      { c with stored := { c.stored with status := cib.status.persisted }, statusAnswers := c.statusAnswers.tail }
    have kept := publish_stored (statusUpdate { c.stored with status := cib.status.persisted })
      { c with stored := { c.stored with status := cib.status.persisted }, statusAnswers := c.statusAnswers.tail }
    split <;>
    · rename_i published
      rw [published] at sent kept
      exact ⟨.inr kept, sent.producer, sent.appends, sent.silent⟩

theorem updateStatus_delivers {cib written : ContainerImageBuild} {c : Cluster}
    (returned : (updateStatus cib c).2 = .ok written) : Delivers cib.status.persisted c (updateStatus cib c).1 := by
  obtain ⟨same, stored⟩ := updateStatus_eq_ok (Prod.ext rfl returned : updateStatus cib c = (_, .ok written))
  refine ⟨updateStatus_writes cib c, by rw [stored, same], fun producer => ?_⟩
  unfold updateStatus at returned ⊢
  split at returned
  · cases returned
  · dsimp only at returned ⊢
    split at returned
    · cases returned
    · rename_i c' published
      have announced := publish_announced (congrArg Prod.snd published) producer
      rw [published] at announced
      exact announced

/-! ## What the transitions write -/

theorem transitionToComplete_fst (now : Int) (cib : ContainerImageBuild) (urls : List String) (size : Nat)
    (c : Cluster) :
    (transitionToComplete now cib urls size c).1 = (updateStatus { cib with status := { cib.status.setState .completed with
      imageURLs := urls, imageSize := size, buildCompletedAt := some now } } c).1 := by
  unfold transitionToComplete
  dsimp only
  split <;> rename_i updated <;> rw [updated]

theorem transitionToComplete_returned {now : Int} {cib : ContainerImageBuild} {urls : List String} {size : Nat}
    {c : Cluster} (returned : (transitionToComplete now cib urls size c).2 = .ok ()) :
    ∃ written, (updateStatus { cib with status := { cib.status.setState .completed with
      imageURLs := urls, imageSize := size, buildCompletedAt := some now } } c).2 = .ok written := by
  unfold transitionToComplete at returned
  dsimp only at returned
  split at returned
  · cases returned
  · rename_i written updated
    exact ⟨written, by rw [updated]⟩

theorem transitionToFailure_fst (now : Int) (cib : ContainerImageBuild) (message : String) (c : Cluster) :
    (transitionToFailure now cib message c).1 = (updateStatus { cib with status := { cib.status.setState .failed with
      errorMessage := message, buildCompletedAt := some now } } c).1 := by
  unfold transitionToFailure
  dsimp only
  split <;> rename_i updated <;> rw [updated]

theorem failWith_fst (env : Environment) (cib : ContainerImageBuild) (err : String) (c : Cluster) :
    (failWith env cib err c).1 = (updateStatus { cib with status := { cib.status.setState .failed with
      errorMessage := err, buildCompletedAt := some env.completedAt } } c).1 := by
  unfold failWith
  have recorded := transitionToFailure_fst env.completedAt cib err c
  split <;> rename_i failed <;> rw [failed] at recorded <;> exact recorded

/-! ## What a run writes -/

/-- What a run can do to the cluster: return before writing, make a first
write of `Building` that did not return, or make one that returned and a
second write of `Completed` or `Failed`. It returns without error only by a
second write of `Completed` that returned. -/
theorem run_cases (env : Environment) (name : String) (c : Cluster) :
    ((run env name c).1 = c ∧ (run env name c).2 ≠ .ok ()) ∨
    ∃ first, first.state = .building ∧
      ((Writes first c (run env name c).1 ∧ (run env name c).2 ≠ .ok ()) ∨
        ∃ c₁ second, Delivers first c c₁ ∧ (second.state = .completed ∨ second.state = .failed) ∧
          Writes second c₁ (run env name c).1 ∧
          ((run env name c).2 = .ok () → second.state = .completed ∧ Delivers second c₁ (run env name c).1)) := by
  cases found : env.getError with
  | some err => exact .inl ⟨by simp [run, found], by simp [run, found]⟩
  | none =>
    refine .inr ⟨({ c.stored.status.persisted.setState .building with
      buildStartedAt := some env.startedAt } : ContainerImageBuildStatus).persisted, rfl, ?_⟩
    simp only [run, found]
    cases building : transitionToBuilding env.startedAt { c.stored with status := c.stored.status.persisted } c with
    | mk c₁ result =>
      have first := updateStatus_writes
        { c.stored with status := { c.stored.status.persisted.setState .building with
          buildStartedAt := some env.startedAt } } c
      cases result with
      | error err =>
        refine .inl ⟨?_, fun same => by cases same⟩
        unfold transitionToBuilding at building
        rw [building] at first
        exact first
      | ok cib =>
        have delivered := updateStatus_delivers (by unfold transitionToBuilding at building; rw [building])
        unfold transitionToBuilding at building
        rw [building] at delivered
        refine .inr ⟨c₁, ?_⟩
        dsimp only
        split
        · exact ⟨_, delivered, .inr rfl, failWith_fst .. ▸ updateStatus_writes .., fun returned =>
            absurd returned (failWith_ne_ok _ _ _ _)⟩
        · split
          · exact ⟨_, delivered, .inr rfl, failWith_fst .. ▸ updateStatus_writes .., fun returned =>
              absurd returned (failWith_ne_ok _ _ _ _)⟩
          · refine ⟨_, delivered, .inl rfl, transitionToComplete_fst .. ▸ updateStatus_writes .., fun returned => ?_⟩
            obtain ⟨written, updated⟩ := transitionToComplete_returned returned
            exact ⟨rfl, transitionToComplete_fst .. ▸ updateStatus_delivers updated⟩

/-! ## The messages of a run -/

theorem published_of_writes {first second : ContainerImageBuildStatus} {c c₁ c₂ : Cluster}
    (one : Delivers first c c₁) (two : Writes second c₁ c₂) :
    (c.pushAnswers = none ∧ c₂.published = c.published) ∨
      c₂.published = c.published ++ [statusUpdate { c.stored with status := first }] ∨
      c₂.published = c.published ++
        [statusUpdate { c.stored with status := first }, statusUpdate { c.stored with status := second }] := by
  cases configured : c.pushAnswers with
  | none =>
    have absent : c₁.pushAnswers = none := by
      simpa [configured] using one.sends.producer
    exact .inl ⟨rfl, (two.sends.silent absent).trans (one.sends.silent configured)⟩
  | some answers =>
    have announced := one.announced (by rw [configured]; rfl)
    have restored : ({ c₁.stored with status := second } : ContainerImageBuild) = { c.stored with status := second } := by
      rw [one.written]
    rcases two.sends.appends with same | sent
    · exact .inr (.inl (same.trans announced))
    · rw [sent, announced, restored, List.append_assoc]
      exact .inr (.inr rfl)

theorem published_of_delivers {first second : ContainerImageBuildStatus} {c c₁ c₂ : Cluster}
    (one : Delivers first c c₁) (two : Delivers second c₁ c₂) (producer : c.pushAnswers.isSome) :
    c₂.published = c.published ++
      [statusUpdate { c.stored with status := first }, statusUpdate { c.stored with status := second }] := by
  have restored : ({ c₁.stored with status := second } : ContainerImageBuild) = { c.stored with status := second } := by
    rw [one.written]
  rw [two.announced (one.sends.producer ▸ producer), one.announced producer, restored, List.append_assoc]
  rfl

/-- Whatever the API server and the producer answer, the messages a run
publishes are appended to those before it; in order, their states are a prefix
of `Building`, then `Completed` or `Failed`; each is the message of the build as
the API server stores it, with some status; and a run that returns without error
with a producer configured has published `Building` and then `Completed`. -/
theorem run_publishes_lifecycle (env : Environment) (name : String) (c : Cluster) :
    ∃ new, (run env name c).1.published = c.published ++ new ∧
      new.map StatusUpdate.currentState ∈ [[], ["Building"], ["Building", "Completed"], ["Building", "Failed"]] ∧
      (∀ u ∈ new, ∃ status, u = statusUpdate { c.stored with status := status }) ∧
      ((run env name c).2 = .ok () → c.pushAnswers.isSome →
        new.map StatusUpdate.currentState = ["Building", "Completed"]) := by
  rcases run_cases env name c with
    ⟨same, failed⟩ | ⟨first, building, ⟨wrote, failed⟩ | ⟨c₁, second, delivered, ended, wrote, completed⟩⟩
  · exact ⟨[], by rw [same, List.append_nil], by simp, by simp, fun returned => absurd returned failed⟩
  · -- the run stopped at its first write
    rcases wrote.sends.appends with same | sent
    · exact ⟨[], by rw [same, List.append_nil], by simp, by simp, fun returned => absurd returned failed⟩
    · exact ⟨_, sent, by simp [statusUpdate, building, BuildState.building],
        fun u mem => ⟨first, List.mem_singleton.mp mem⟩, fun returned => absurd returned failed⟩
  · -- the run made both writes; only a returned completion ends it without error
    have finished : ∀ new, (run env name c).1.published = c.published ++ new →
        (run env name c).2 = .ok () → c.pushAnswers.isSome →
        new.map StatusUpdate.currentState = ["Building", "Completed"] := by
      intro new published returned producer
      obtain ⟨isCompleted, both⟩ := completed returned
      have same := List.append_cancel_left (published.symm.trans (published_of_delivers delivered both producer))
      rw [same]
      simp [statusUpdate, building, isCompleted, BuildState.building, BuildState.completed]
    have secondName : second.state.name = "Completed" ∨ second.state.name = "Failed" := by
      rcases ended with isCompleted | isFailed
      · exact .inl (by rw [isCompleted]; rfl)
      · exact .inr (by rw [isFailed]; rfl)
    rcases published_of_writes delivered wrote with ⟨-, same⟩ | sent | sent
    · exact ⟨[], by rw [same, List.append_nil], by simp, by simp, finished [] (by rw [same, List.append_nil])⟩
    · exact ⟨_, sent, by simp [statusUpdate, building, BuildState.building],
        fun u mem => ⟨first, List.mem_singleton.mp mem⟩, finished _ sent⟩
    · refine ⟨_, sent, ?_, ?_, finished _ sent⟩
      · rcases secondName with named | named <;> simp [statusUpdate, building, BuildState.building, named]
      · intro u mem
        rcases List.mem_pair.mp mem with rfl | rfl
        · exact ⟨first, rfl⟩
        · exact ⟨second, rfl⟩

/-! ## The controller after a run -/

theorem reconcile_of_started (registry : Forge.Source.Cloud.Registry) (stateDir : String) {request : Request}
    (cfg : Forge.Source.JobResources.BuildJobConfig) {build : ContainerImageBuild}
    (found : request.client.getBuild = .found build) (started : build.status.state ≠ .unset) :
    reconcile registry stateDir request cfg = ⟨.ok (), none, cfg⟩ := by
  unfold reconcile
  rw [found]
  exact if_pos started

theorem run_stored (env : Environment) (name : String) (c : Cluster) :
    (run env name c).1.stored = c.stored ∨
      ∃ status, (run env name c).1.stored = { c.stored with status := status } ∧
        status.state ∈ [BuildState.building, .completed, .failed] := by
  rcases run_cases env name c with
    ⟨same, -⟩ | ⟨first, building, ⟨wrote, -⟩ | ⟨c₁, second, delivered, ended, wrote, -⟩⟩
  · exact .inl (by rw [same])
  · rcases wrote.stored with same | written
    · exact .inl same
    · exact .inr ⟨first, written, by simp [building]⟩
  · rcases wrote.stored with same | written
    · exact .inr ⟨first, same.trans delivered.written, by simp [building]⟩
    · refine .inr ⟨second, by rw [written, delivered.written], ?_⟩
      rcases ended with state | state <;> simp [state]

/-- A run of the job leaves the stored build as it found it, or changes only
its status, to `Building`, `Completed` or `Failed`; the controller's
`Reconcile` of the build so stored then returns without error, builds no Job
and leaves its configuration as it was, whatever else the API server answers. -/
theorem started_build_is_not_reconciled (env : Environment) (name : String) (c : Cluster) :
    (run env name c).1.stored = c.stored ∨
      ∃ status, (run env name c).1.stored = { c.stored with status := status } ∧
        status.state ∈ [BuildState.building, .completed, .failed] ∧
        ∀ registry stateDir (request : Request) cfg, request.client.getBuild = .found (run env name c).1.stored →
          reconcile registry stateDir request cfg = ⟨.ok (), none, cfg⟩ := by
  rcases run_stored env name c with same | ⟨status, stored, state⟩
  · exact .inl same
  · -- none of the three states is the empty one `Reconcile` acts on
    have started : status.state ≠ .unset := by
      simp only [List.mem_cons, List.not_mem_nil, or_false] at state
      rcases state with state | state | state <;> rw [state] <;> decide
    refine .inr ⟨status, stored, state, fun registry stateDir request cfg found => ?_⟩
    rw [stored] at found
    exact reconcile_of_started registry stateDir cfg found started

end Forge.Guarantees.BuildLifecycle
