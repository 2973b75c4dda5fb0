import Forge.Source.Plugins
import Mathlib.Data.List.TakeWhile

/-!
# Which plugins are loaded

`loadPlugins` walks the plugins path and loads every path that is not a
directory, in the walk's order: below a directory, its names in sorted
order, each before the paths below it. A load that fails, or a path the walk
cannot read, stops the walk with its error.

So every run of the loader goes past a prefix of the walk's visits and stops
at the next one, if any (`load_plugins_walks_in_order`): its plugins are the
files of that prefix, in order, numbered as the processes started; on a
failure it returns them along with the error of the visit that stopped it,
and the process of that visit is left running when its launch started one.
-/

namespace Forge.Guarantees.PluginLoading
open Forge.Source.Plugins Forge.Lib.Walk

/-- What a run of the loader leaves after going past the visits `done` and
stopping at the head of `rest`, if any. -/
structure LoadedUpTo (launch : String → Launch) (done rest : List (String × Visit))
    (loaded : Loading) (result : Except String Unit) : Prop where
  wentPast : ∀ v ∈ done, goesOn launch v = true
  locations : loaded.plugins.map (·.location) = filesOf done
  processes : loaded.plugins.map (·.process) = List.range loaded.plugins.length
  ending : (rest = [] ∧ result = .ok () ∧ loaded.started = loaded.plugins.length) ∨
    ∃ stop more err, rest = stop :: more ∧ goesOn launch stop = false ∧ result = .error err ∧
      (stop.2 = .error err ∨ ∃ n, newPreparerPlugin (launch stop.1) n stop.1 = .error err) ∧
      loaded.started =
        loaded.plugins.length + (if stop.2 = .file ∧ (launch stop.1).leavesProcess then 1 else 0)

theorem head_dropWhile_eq_false {α : Type} {p : α → Bool} {l : List α} {stop : α} {more : List α}
    (dropped : l.dropWhile p = stop :: more) : p stop = false := by
  have first := List.dropWhile_get_zero_not p l (by simp [dropped])
  simp only [dropped, List.get_eq_getElem, List.getElem_cons_zero, Bool.not_eq_true] at first
  exact first

/-- Every run of the loader over a path that exists goes past the longest
prefix of the walk's visits it can and stops at the next visit, if any. -/
theorem load_plugins_walks_in_order (launch : String → Launch) {path : String} (named : path ≠ "")
    (tree : Tree) :
    ∃ done rest, visits path tree = done ++ rest ∧
      LoadedUpTo launch done rest (loadPlugins launch path (some tree)).1
        (loadPlugins launch path (some tree)).2 := by
  let done := (visits path tree).takeWhile (goesOn launch)
  let rest := (visits path tree).dropWhile (goesOn launch)
  have walked : loadPlugins launch path (some tree) =
      andThen (loadVisit launch) rest (visitAll (loadVisit launch) done noneLoaded) := by
    rw [loadPlugins, if_neg named, walk_eq_visitAll, ← visitAll_append, List.takeWhile_append_dropWhile]
  have wentPast : ∀ v ∈ done, goesOn launch v = true := fun v mem => List.mem_takeWhile_imp mem
  obtain ⟨loaded, ran, ⟨processes, started⟩, locations⟩ :=
    visitAll_loadVisit_of_goesOn launch done noneLoaded wentPast noneLoaded_numbered
  refine ⟨done, rest, (List.takeWhile_append_dropWhile ..).symm, ?_⟩
  rw [walked, ran]
  cases restIs : rest with
  | nil => exact ⟨wentPast, locations, processes, .inl ⟨rfl, rfl, started⟩⟩
  | cons stop more =>
    have stops := head_dropWhile_eq_false restIs
    obtain ⟨stopped, err, stepped, named⟩ := loadVisit_of_stops loaded stops
    obtain ⟨kept, leftRunning⟩ := loadVisit_of_error stepped
    have final : andThen (loadVisit launch) (stop :: more) (loaded, .ok ()) = (stopped, .error err) := by
      show visitAll (loadVisit launch) ((stop.1, stop.2) :: more) loaded = _
      rw [visitAll_cons, stepped]
      rfl
    rw [final]
    refine ⟨wentPast, by rw [kept]; exact locations, by rw [kept]; exact processes, .inr ?_⟩
    exact ⟨stop, more, err, rfl, stops, rfl, named, by rw [leftRunning, kept, started]⟩

def pluginsTree : Tree :=
  .dir [("aws", .file), ("extra", .dir [("gcs", .file)]),
    ("locked", .failed "open /plugins/locked: permission denied")]

def servesAll : String → Launch := fun _ => .served ⟨fun _ _ => .ok (), .ok ()⟩ fun _ => none

theorem locked_directory_stops_loading :
    "/plugins" ≠ "" ∧ ∃ done rest, visits "/plugins" pluginsTree = done ++ rest ∧
      LoadedUpTo servesAll done rest (loadPlugins servesAll "/plugins" (some pluginsTree)).1
        (loadPlugins servesAll "/plugins" (some pluginsTree)).2 :=
  ⟨by decide, load_plugins_walks_in_order servesAll (by decide) pluginsTree⟩

example : ((loadPlugins servesAll "/plugins" (some pluginsTree)).1.plugins.map (·.location),
    (loadPlugins servesAll "/plugins" (some pluginsTree)).2) =
      (["/plugins/aws", "/plugins/extra/gcs"], .error "open /plugins/locked: permission denied") := by
  decide

end Forge.Guarantees.PluginLoading
