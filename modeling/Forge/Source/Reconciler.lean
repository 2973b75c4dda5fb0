import Forge.Source.JobResources

/-!
# The ContainerImageBuild reconciler

Source: `controllers/containerimagebuild_controller.go`: `Reconcile`, and
`RunGC` with the `--gc-max-keep` retention count of `cmd/root.go`.

The controller has one worker, which reconciles one request at a time over
the reconciler's `BuildJobConfig`. A panic is not recovered: the process
exits and starts again with the operator's configuration, which is the
`initial` configuration of `runWorker`. Each request brings the API
server's answers, the iteration orders of the cloud dispatch and the
quantity parser.

`RunGC` deletes finished builds. `sort.Slice` is given by its contract: some
permutation ordered by creation time (`SortsByCreation`). The filtered
slice `builds` was grown by `append`, and `capacity` is its capacity, at
least its length; Go's `builds[:high]` panics past the capacity and yields
zero values past the length. The `Delete` calls are the result; their
errors are only logged.
-/

namespace Forge.Source.Reconciler
open Forge.Lib.Regex Forge.Source.Api Forge.Source.Cloud Forge.Source.JobResources

/-! ## Reconcile -/

/-- The Job `createJobForBuild` hands to `withOwnedResource`, when the
resources parse. -/
def constructedJob (parseQuantity : String → Except String Quantity) (stateDir : String)
    (cfg : BuildJobConfig) (cib : ContainerImageBuild) : Option Job :=
  match jobResources parseQuantity cib with
  | .error _ => none
  | .ok resources => some (buildJob cfg stateDir cib resources)

/-- What one reconcile sees: the API server, the iteration orders of the
cloud dispatch, and `resource.ParseQuantity`. -/
structure Request where
  client : Client
  visit : Nat → List (Regexp Char × AuthLoader)
  parseQuantity : String → Except String Quantity

/-- How a reconcile ended, the Job it built with its build, and the
configuration after it. -/
structure Reconciled where
  outcome : Outcome Unit
  job : Option (ContainerImageBuild × Job)
  cfg : BuildJobConfig

/-- `Reconcile`: skip a missing build and one that has a state, else create
the prerequisites and the Job. -/
def reconcile (registry : Cloud.Registry) (stateDir : String) (request : Request)
    (cfg : BuildJobConfig) : Reconciled :=
  match request.client.getBuild with
  | .notFound => ⟨.ok (), none, cfg⟩
  | .failed message => ⟨.error message, none, cfg⟩
  | .found build =>
    if build.status.state ≠ .unset then ⟨.ok (), none, cfg⟩
    else
      match checkPrerequisites request.client registry request.visit cfg build with
      | .error message => ⟨.error message, none, cfg⟩
      | .panic => ⟨.panic, none, cfg⟩
      | .ok prepared =>
        let created := createJobForBuild request.client request.parseQuantity stateDir prepared build
        ⟨Outcome.ofExcept created.1,
          (constructedJob request.parseQuantity stateDir prepared build).map (build, ·), created.2⟩

theorem constructedJob_eq_some {parseQuantity : String → Except String Quantity} {stateDir : String}
    {cfg : BuildJobConfig} {cib : ContainerImageBuild} {job : Job}
    (built : constructedJob parseQuantity stateDir cfg cib = some job) :
    ∃ resources, jobResources parseQuantity cib = .ok resources ∧ job = buildJob cfg stateDir cib resources := by
  unfold constructedJob at built
  split at built
  · cases built
  · rename_i resources resourced
    exact ⟨resources, resourced, (Option.some.inj built).symm⟩

/-- `constructedJob` is the Job `createJobForBuild` sends to `withOwnedResource`. -/
theorem createJobForBuild_of_constructedJob (client : Client) {parseQuantity : String → Except String Quantity}
    {stateDir : String} {cfg : BuildJobConfig} {cib : ContainerImageBuild} {job : Job}
    (built : constructedJob parseQuantity stateDir cfg cib = some job) :
    (createJobForBuild client parseQuantity stateDir cfg cib).1 = withOwnedResource client (.job job) := by
  obtain ⟨resources, resourced, rfl⟩ := constructedJob_eq_some built
  rw [createJobForBuild, resourced]

theorem reconcile_of_prepared (registry : Cloud.Registry) (stateDir : String) {request : Request}
    {cfg prepared : BuildJobConfig} {build : ContainerImageBuild} (found : request.client.getBuild = .found build)
    (unset : build.status.state = .unset)
    (checked : checkPrerequisites request.client registry request.visit cfg build = .ok prepared) :
    reconcile registry stateDir request cfg =
      ⟨Outcome.ofExcept (createJobForBuild request.client request.parseQuantity stateDir prepared build).1,
        (constructedJob request.parseQuantity stateDir prepared build).map (build, ·),
        (createJobForBuild request.client request.parseQuantity stateDir prepared build).2⟩ := by
  simp [reconcile, found, unset, checked]

/-- A reconcile that built a Job fetched the build with no state, and its
prerequisites succeeded with the configuration the Job was built from. -/
theorem reconcile_job_fetched {registry : Cloud.Registry} {stateDir : String} {request : Request}
    {cfg : BuildJobConfig} {build : ContainerImageBuild} {job : Job}
    (built : (reconcile registry stateDir request cfg).job = some (build, job)) :
    request.client.getBuild = .found build ∧ build.status.state = .unset ∧
      ∃ prepared, checkPrerequisites request.client registry request.visit cfg build = .ok prepared ∧
        constructedJob request.parseQuantity stateDir prepared build = some job := by
  unfold reconcile at built
  split at built
  · cases built
  · cases built
  · rename_i fetched found
    split at built
    · cases built
    · rename_i unset
      split at built
      · cases built
      · cases built
      · rename_i prepared checked
        obtain ⟨made, constructed, same⟩ := Option.map_eq_some_iff.mp built
        cases same
        exact ⟨found, Decidable.of_not_not unset, prepared, checked, constructed⟩

/-- The Job a reconcile records is the Job it sent to the API server, and the
reconcile's outcome is the answer to that request. -/
theorem reconcile_sends_job {registry : Cloud.Registry} {stateDir : String} {request : Request}
    {cfg : BuildJobConfig} {build : ContainerImageBuild} {job : Job}
    (built : (reconcile registry stateDir request cfg).job = some (build, job)) :
    (reconcile registry stateDir request cfg).outcome =
      Outcome.ofExcept (withOwnedResource request.client (.job job)) := by
  obtain ⟨found, unset, prepared, checked, constructed⟩ := reconcile_job_fetched built
  rw [reconcile_of_prepared registry stateDir found unset checked,
    ← createJobForBuild_of_constructedJob request.client constructed]

/-- The builds `RunGC` may delete: those `Completed` or `Failed`. -/
def finishedBuilds (items : List ContainerImageBuild) : List ContainerImageBuild :=
  items.filter fun cib => cib.status.state = .completed ∨ cib.status.state = .failed

/-- The contract of `sort.Slice` with `CreationTimestamp.Before`: a
permutation in order of creation. -/
def SortsByCreation (sort : List ContainerImageBuild → List ContainerImageBuild) : Prop :=
  ∀ builds, (sort builds).Perm builds ∧
    (sort builds).Pairwise fun a b => a.metadata.creationTimestamp ≤ b.metadata.creationTimestamp

/-- `CreationTimestamp` order, as a test. -/
def createdNoLater (a b : ContainerImageBuild) : Bool :=
  decide (a.metadata.creationTimestamp ≤ b.metadata.creationTimestamp)

/-- A stable sort by creation time, one function with that contract. -/
def sortByCreation (builds : List ContainerImageBuild) : List ContainerImageBuild :=
  builds.mergeSort createdNoLater

theorem sortsByCreation_sortByCreation : SortsByCreation sortByCreation := by
  intro builds
  refine ⟨List.mergeSort_perm _ _, ?_⟩
  have ordered : (builds.mergeSort createdNoLater).Pairwise fun a b => createdNoLater a b :=
    List.pairwise_mergeSort
      (fun a b c ab bc => by simp only [createdNoLater, decide_eq_true_eq] at *; omega)
      (fun a b => by simp only [createdNoLater, Bool.or_eq_true, decide_eq_true_eq]; omega) builds
  simpa [sortByCreation, createdNoLater] using ordered

/-- The zero `ContainerImageBuild`, which a slice holds past its length. -/
def zeroBuild : ContainerImageBuild where
  metadata := ⟨"", "", ∅, ∅, 0, ""⟩
  spec := ⟨"", "", 0, [], [], [], ∅, "", "", ⟨∅, ∅⟩, 0, 0, ∅, false, false, "", []⟩
  status := ⟨.unset, .unset, [], 0, "", none, none⟩

/-- `builds[:high]` of a slice with the given capacity. -/
def sliceTo (builds : List ContainerImageBuild) (capacity : Nat) (high : Int) :
    Except String (List ContainerImageBuild) :=
  if high < 0 then .error ("slice bounds out of range [:" ++ toString high ++ "]")
  else if capacity < high.toNat then
    .error ("slice bounds out of range [:" ++ toString high ++ "] with capacity " ++ toString capacity)
  else .ok ((builds ++ List.replicate (capacity - builds.length) zeroBuild).take high.toNat)

theorem sliceTo_of_le_length (builds : List ContainerImageBuild) {capacity : Nat} {high : Int}
    (nonneg : 0 ≤ high) (within : high.toNat ≤ builds.length) (room : builds.length ≤ capacity) :
    sliceTo builds capacity high = .ok (builds.take high.toNat) := by
  rw [sliceTo, if_neg (by omega), if_neg (by omega), List.take_append_of_le_length within]

inductive GcOutcome where
  | listFailed
  | noBuilds
  | retained
  /-- `Delete` was called on these builds, in order -/
  | deleted (builds : List ContainerImageBuild)
  | panic (message : String)

def runGC (list : Except String (List ContainerImageBuild)) (retentionCount : Int) (capacity : Nat)
    (sort : List ContainerImageBuild → List ContainerImageBuild) : GcOutcome :=
  match list with
  | .error _ => .listFailed
  | .ok items =>
    if items = [] then .noBuilds
    else
      let builds := finishedBuilds items
      if (builds.length : Int) ≤ retentionCount then .retained
      else
        match sliceTo (sort builds) capacity (builds.length - retentionCount) with
        | .error message => .panic ("runtime error: " ++ message)
        | .ok doomed => .deleted doomed

/-- The builds a run deleted, or `none` when it panicked. -/
def GcOutcome.deletions : GcOutcome → Option (List ContainerImageBuild)
  | .deleted builds => some builds
  | .panic _ => none
  | _ => some []

end Forge.Source.Reconciler
