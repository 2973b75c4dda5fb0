import Forge.Source.Reconciler

/-!
# What garbage collection deletes

`RunGC` is meant to call `Delete` on exactly `max(0, |T| - max(rc, 0))` of
the finished builds `T`, the oldest ones, for the retention count `rc` of the
flag `--gc-max-keep`, and on nothing else, without slicing out of range.

The flag is not checked (`gc_slices_out_of_range`). For `rc < 0` the test `len(builds) <= rc` never
holds, and `builds[:len(builds)-rc]` reaches past the slice's length: with
one finished build and `rc = -1` it panics when the capacity is one (what
`append` leaves), and it deletes a zero `ContainerImageBuild` for any larger
capacity. For `rc ≥ 0` it deletes the oldest ones (`gc_deletes_oldest`).
-/

namespace Forge.Guarantees.GarbageCollection
open Forge.Source.Api Forge.Source.Reconciler

/-- `RunGC` deletes the oldest finished builds beyond the retention count, for
every capacity the slice of finished builds may have. -/
def GcKeepsNewest : Prop :=
  ∀ (items : List ContainerImageBuild) (retentionCount : Int) (capacity : Nat)
    (sort : List ContainerImageBuild → List ContainerImageBuild),
    SortsByCreation sort → (finishedBuilds items).length ≤ capacity →
    ∃ doomed, (runGC (.ok items) retentionCount capacity sort).deletions = some doomed ∧
      doomed.length = ((finishedBuilds items).length - max retentionCount 0).toNat ∧
      ∃ kept, (doomed ++ kept).Perm (finishedBuilds items) ∧
        ∀ d ∈ doomed, ∀ k ∈ kept, d.metadata.creationTimestamp ≤ k.metadata.creationTimestamp

def oldBuild : ContainerImageBuild :=
  { zeroBuild with
    metadata := ⟨"old", "default", ∅, ∅, 1, ""⟩
    status := { zeroBuild.status with state := .completed } }

theorem finishedBuilds_oldBuild : finishedBuilds [oldBuild] = [oldBuild] := rfl

theorem sortByCreation_oldBuild : sortByCreation [oldBuild] = [oldBuild] :=
  List.mergeSort_singleton oldBuild

theorem negative_retention_panics :
    runGC (.ok [oldBuild]) (-1) 1 sortByCreation =
      .panic "runtime error: slice bounds out of range [:2] with capacity 1" := by
  simp only [runGC, finishedBuilds_oldBuild, sortByCreation_oldBuild, sliceTo]
  rfl

theorem gc_slices_out_of_range : ¬ GcKeepsNewest := by
  intro keeps
  obtain ⟨doomed, deleted, -⟩ := keeps [oldBuild] (-1) 1 sortByCreation
    sortsByCreation_sortByCreation (by decide)
  rw [negative_retention_panics] at deleted
  cases deleted

theorem negative_retention_deletes_zero_build (capacity : Nat) (roomy : 2 ≤ capacity) :
    runGC (.ok [oldBuild]) (-1) capacity sortByCreation = .deleted [oldBuild, zeroBuild] := by
  obtain ⟨spare, rfl⟩ : ∃ spare, capacity = spare + 2 := ⟨capacity - 2, by omega⟩
  simp only [runGC, finishedBuilds_oldBuild, sortByCreation_oldBuild, sliceTo]
  simp [List.replicate_succ, show ¬ spare + 2 < 2 by omega]

/-! ## A retention count that is not negative -/

theorem take_le_drop {builds : List ContainerImageBuild} (n : Nat)
    (ordered : builds.Pairwise fun a b => a.metadata.creationTimestamp ≤ b.metadata.creationTimestamp) :
    ∀ d ∈ builds.take n, ∀ k ∈ builds.drop n,
      d.metadata.creationTimestamp ≤ k.metadata.creationTimestamp := by
  rw [← List.take_append_drop n builds, List.pairwise_append] at ordered
  exact ordered.2.2

/-- With a retention count of zero or more, `RunGC` deletes the
`|T| - retentionCount` oldest finished builds and nothing else. -/
theorem gc_deletes_oldest (items : List ContainerImageBuild) (retentionCount : Int) (capacity : Nat)
    (sort : List ContainerImageBuild → List ContainerImageBuild) (sorts : SortsByCreation sort)
    (room : (finishedBuilds items).length ≤ capacity) (nonneg : 0 ≤ retentionCount) :
    ∃ doomed, (runGC (.ok items) retentionCount capacity sort).deletions = some doomed ∧
      doomed.length = ((finishedBuilds items).length - retentionCount).toNat ∧
      ∃ kept, (doomed ++ kept).Perm (finishedBuilds items) ∧
        ∀ d ∈ doomed, ∀ k ∈ kept, d.metadata.creationTimestamp ≤ k.metadata.creationTimestamp := by
  obtain ⟨permuted, ordered⟩ := sorts (finishedBuilds items)
  dsimp only [runGC]
  by_cases empty : items = []
  · subst empty
    exact ⟨[], rfl, by simp [finishedBuilds]; omega, [], by simp [finishedBuilds], by simp⟩
  rw [if_neg empty]
  by_cases retained : ((finishedBuilds items).length : Int) ≤ retentionCount
  · rw [if_pos retained]
    exact ⟨[], rfl, by simp only [List.length_nil]; omega, finishedBuilds items, by simp, by simp⟩
  rw [if_neg retained]
  set builds := finishedBuilds items
  have sortedLength : (sort builds).length = builds.length := permuted.length_eq
  have sliced : sliceTo (sort builds) capacity (builds.length - retentionCount) = _ :=
    sliceTo_of_le_length (sort builds) (by omega) (by omega) (by omega)
  rw [sliced]
  refine ⟨_, rfl, by simp [sortedLength]; omega, (sort builds).drop _, ?_, take_le_drop _ ordered⟩
  rw [List.take_append_drop]
  exact permuted

def gcTestBuilds : List ContainerImageBuild :=
  [{ oldBuild with
      metadata := ⟨"test-cib-failed", "default", ∅, ∅, 20, ""⟩,
      status := { zeroBuild.status with state := .failed } },
    { oldBuild with
      metadata := ⟨"test-cib-building", "default", ∅, ∅, 5, ""⟩,
      status := { zeroBuild.status with state := .building } },
    { oldBuild with metadata := ⟨"test-cib-completed-old", "default", ∅, ∅, 10, ""⟩ }]

theorem gc_keeps_one_of_two :
    SortsByCreation sortByCreation ∧ (finishedBuilds gcTestBuilds).length ≤ 2 ∧ (0 : Int) ≤ 1 ∧
    ∃ doomed, (runGC (.ok gcTestBuilds) 1 2 sortByCreation).deletions = some doomed ∧
      doomed.length = (((finishedBuilds gcTestBuilds).length : Int) - 1).toNat ∧
      ∃ kept, (doomed ++ kept).Perm (finishedBuilds gcTestBuilds) ∧
        ∀ d ∈ doomed, ∀ k ∈ kept, d.metadata.creationTimestamp ≤ k.metadata.creationTimestamp :=
  ⟨sortsByCreation_sortByCreation, by decide, by decide,
    gc_deletes_oldest gcTestBuilds 1 2 sortByCreation sortsByCreation_sortByCreation (by decide)
      (by decide)⟩

end Forge.Guarantees.GarbageCollection
