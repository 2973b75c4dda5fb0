import Forge.Source.Driver

/-!
# Cleanup of the preparer plugins

The README's contract for a preparer plugin is that `Cleanup` undoes what its
`Prepare` did. `driver.build` defers `preparerPlugin.Cleanup()` once per
iteration of its range loop, but under the module's `go 1.17` the closures all
read the loop's one variable when they run, at `build`'s return, and by then
it holds the last plugin whose `Prepare` ran. So the last prepared plugin is
cleaned once per prepared plugin and every earlier one never
(`count_cleanup_build`). The contract therefore holds exactly when at most one
plugin was prepared.
-/

namespace Forge.Guarantees.PluginCleanup
open Forge.Source.Api Forge.Source.BuildJob Forge.Source.Driver

variable {P : Type}

/-- The Prepare/Cleanup contract for the calls of one run of `build`: every
plugin whose `Prepare` was called has been cleaned exactly once, and no other
plugin has been cleaned. -/
def CleansPreparedOnce [DecidableEq P] (calls : List (Call P)) : Prop :=
  (∀ plugin contextPath, Call.prepare plugin contextPath ∈ calls → calls.count (.cleanup plugin) = 1) ∧
    ∀ plugin, Call.cleanup plugin ∈ calls → ∃ contextPath, Call.prepare plugin contextPath ∈ calls

/-- The contract for every run of `build` on distinct plugins. -/
def CleansEachPreparedOnce (P : Type) [DecidableEq P] : Prop :=
  ∀ (bk : Buildkit P) (plugins : List P) (image : String) (opts : BuildOptions), plugins.Nodup →
    CleansPreparedOnce (build bk plugins image opts).1

theorem preparedPlugins_isPrefix (bk : Buildkit P) : ∀ plugins : List P, preparedPlugins bk plugins <+: plugins
  | [] => List.prefix_refl []
  | plugin :: rest => by
    unfold preparedPlugins
    split
    · exact List.cons_prefix_cons.mpr ⟨rfl, List.nil_prefix⟩
    · exact List.cons_prefix_cons.mpr ⟨rfl, preparedPlugins_isPrefix bk rest⟩

section Extracted

variable (bk : Buildkit P) (plugins : List P) (image : String)
  (opts : BuildOptions) {contentsDir : String} (extracted : bk.extract = .ok contentsDir)
include extracted

theorem prepare_mem_build (plugin : P) (contextPath : String) :
    Call.prepare plugin contextPath ∈ (build bk plugins image opts).1 ↔
      plugin ∈ preparedPlugins bk plugins ∧ contextPath = contentsDir := by
  rw [build_of_extracted bk plugins image opts extracted]
  simp only [List.mem_append, List.mem_cons, List.mem_map, reduceCtorEq, false_or]
  constructor
  · rintro ((⟨prepared, mem, same⟩ | solved) | cleaned)
    · cases same
      exact ⟨mem, rfl⟩
    · split at solved <;> simp at solved
    · obtain ⟨_, same⟩ := mem_deferredCleanups cleaned
      cases same
  · rintro ⟨mem, rfl⟩
    exact .inl (.inl ⟨plugin, mem, rfl⟩)

variable [DecidableEq P]

/-- Once the context is extracted, `build` cleans only the last plugin whose
`Prepare` ran, once for every plugin whose `Prepare` ran. -/
theorem count_cleanup_build (plugin : P) :
    (build bk plugins image opts).1.count (.cleanup plugin) =
      if (preparedPlugins bk plugins).getLast? = some plugin then (preparedPlugins bk plugins).length
      else 0 := by
  rw [build_of_extracted bk plugins image opts extracted]
  have others : (Call.extract opts.contextURL :: (preparedPlugins bk plugins).map (.prepare · contentsDir) ++
      (if (plugins.forM bk.prepare).toBool then [Call.solve image] else [])).count (Call.cleanup plugin) = 0 := by
    rw [List.count_eq_zero]
    intro mem
    simp only [List.mem_append, List.mem_cons, List.mem_map, reduceCtorEq, and_false, exists_false,
      or_false, false_or] at mem
    split at mem <;> simp at mem
  rw [List.count_append, others, Nat.zero_add, deferredCleanups]
  cases (preparedPlugins bk plugins).getLast? with
  | none => simp
  | some last => simp [List.count_replicate]

theorem first_prepared_not_cleaned (distinct : plugins.Nodup) {first : P} {rest : List P}
    (prepared : preparedPlugins bk plugins = first :: rest) (more : rest ≠ []) :
    (build bk plugins image opts).1.count (.cleanup first) = 0 := by
  have distinctPrepared : (first :: rest).Nodup :=
    prepared ▸ (preparedPlugins_isPrefix bk plugins).sublist.nodup distinct
  have notLast : (first :: rest).getLast? ≠ some first := by
    rw [List.getLast?_cons, List.getLast?_eq_some_getLast more, Option.getD_some]
    intro same
    exact (List.nodup_cons.mp distinctPrepared).1 (Option.some.inj same ▸ List.getLast_mem more)
  rw [count_cleanup_build bk plugins image opts extracted, prepared, if_neg notLast]

theorem cleansPreparedOnce_of_length_le_one (atMostOne : (preparedPlugins bk plugins).length ≤ 1) :
    CleansPreparedOnce (build bk plugins image opts).1 := by
  have prepared := prepare_mem_build bk plugins image opts extracted
  have counted := count_cleanup_build bk plugins image opts extracted
  have cleanedIsLast : ∀ plugin, Call.cleanup plugin ∈ (build bk plugins image opts).1 →
      (preparedPlugins bk plugins).getLast? = some plugin := by
    intro plugin cleaned
    have positive := List.count_pos_iff.mpr cleaned
    rw [counted] at positive
    split at positive
    · assumption
    · exact absurd positive (Nat.lt_irrefl 0)
  refine ⟨fun plugin contextPath mem => ?_, fun plugin cleaned => ?_⟩
  · obtain ⟨isPrepared, -⟩ := (prepared plugin contextPath).mp mem
    obtain ⟨only, single⟩ : ∃ only, preparedPlugins bk plugins = [only] := by
      match h : preparedPlugins bk plugins, atMostOne with
      | [], _ => simp [h] at isPrepared
      | [only], _ => exact ⟨only, rfl⟩
    rw [single, List.mem_singleton] at isPrepared
    rw [counted, single, isPrepared]
    simp
  · exact ⟨contentsDir, (prepared plugin contentsDir).mpr
      ⟨List.mem_of_getLast? (cleanedIsLast plugin cleaned), rfl⟩⟩

/-- Once the context is extracted, a run of `build` on distinct plugins keeps
the contract exactly when at most one plugin was prepared. -/
theorem cleansPreparedOnce_iff (distinct : plugins.Nodup) :
    CleansPreparedOnce (build bk plugins image opts).1 ↔ (preparedPlugins bk plugins).length ≤ 1 := by
  refine ⟨fun ⟨once, _⟩ => ?_, cleansPreparedOnce_of_length_le_one bk plugins image opts extracted⟩
  by_contra many
  obtain ⟨first, rest, prepared⟩ : ∃ first rest, preparedPlugins bk plugins = first :: rest := by
    cases h : preparedPlugins bk plugins with
    | nil => simp [h] at many
    | cons first rest => exact ⟨first, rest, rfl⟩
  have more : rest ≠ [] := by
    rintro rfl
    simp [prepared] at many
  have cleanedOnce := once first contentsDir
    ((prepare_mem_build bk plugins image opts extracted first contentsDir).mpr ⟨by simp [prepared], rfl⟩)
  rw [first_prepared_not_cleaned bk plugins image opts extracted distinct prepared more] at cleanedOnce
  exact absurd cleanedOnce Nat.zero_ne_one

end Extracted

def preparesBoth : Buildkit Nat :=
  ⟨.ok "/mnt/build/extracted", fun _ => .ok (), .ok (), fun _ => .ok 0, fun _ _ _ => .ok (),
    fun _ _ => .ok ()⟩

def appBuild : BuildOptions where
  contextURL := "https://ctx.example/app.tgz"
  contextTimeoutSeconds := 0
  imageName := "app"
  imageSizeLimit := 0
  labels := ∅
  buildArgs := []
  disableBuildCache := false
  disableLayerCacheExport := false
  timeoutSeconds := 0
  registries := []
  pushRegistries := ["registry.example"]
  pluginData := ∅

theorem two_prepared_plugins_break_contract :
    preparesBoth.extract = .ok "/mnt/build/extracted" ∧ [0, 1].Nodup ∧
      ¬ CleansPreparedOnce (build preparesBoth [0, 1] "registry.example/app:latest" appBuild).1 :=
  ⟨rfl, by decide, (cleansPreparedOnce_iff preparesBoth [0, 1] "registry.example/app:latest" appBuild rfl
    (by decide)).not.mpr (by decide)⟩

theorem build_cleans_last_plugin_twice : ¬ CleansEachPreparedOnce Nat := by
  intro contract
  have ⟨once, _⟩ := contract preparesBoth [0, 1] "registry.example/app:latest" appBuild (by decide)
  have bothPrepared : preparedPlugins preparesBoth [0, 1] = [0, 1] := rfl
  have firstPrepared := (prepare_mem_build preparesBoth [0, 1] "registry.example/app:latest" appBuild rfl
    0 "/mnt/build/extracted").mpr ⟨by simp [bothPrepared], rfl⟩
  have cleanedOnce := once 0 "/mnt/build/extracted" firstPrepared
  rw [first_prepared_not_cleaned preparesBoth [0, 1] "registry.example/app:latest" appBuild rfl (by decide)
    bothPrepared (List.cons_ne_nil 1 [])] at cleanedOnce
  exact absurd cleanedOnce Nat.zero_ne_one

end Forge.Guarantees.PluginCleanup
