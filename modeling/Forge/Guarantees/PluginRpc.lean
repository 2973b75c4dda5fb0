import Forge.Source.Plugins
import Forge.Source.Driver

/-!
# What the host sees of a plugin

A plugin's `Prepare` reaches the host through `preparerServer`, `net/rpc` and
`preparerClient`. What arrives is the plugin's result with two changes
(`prepare_connected`): a call over a broken connection fails with the
connection's error, and an error whose text is empty arrives as success,
since the server sends the text and the client reads `""` as no error. Either
way the host wraps what arrives in its own message.

So the driver's `build`, with its plugins behind their RPC clients, solves
exactly when no plugin's `Prepare` failed with a non-empty text, and a plugin
whose `Prepare` fails with an empty one does not stop it
(`build_over_rpc_solves_iff`).
-/

namespace Forge.Guarantees.PluginRpc
open Forge.Source.Api Forge.Source.Plugins Forge.Source.Driver Forge.Source.BuildJob

/-- What reaches the host of a plugin's result: the connection's error when
the call breaks, and otherwise the result, an error of empty text being read
as success. -/
def delivered : Option String → Except String Unit → Except String Unit
  | some err, _ => .error err
  | none, .error err => if err = "" then .ok () else .error err
  | none, .ok () => .ok ()

def intact : String → Option String := fun _ => none

theorem reply_errString (result : Except String Unit) :
    (if errString result ≠ "" then .error (errString result) else .ok ()) = delivered none result := by
  cases result with
  | ok u => rfl
  | error err =>
    by_cases empty : err = ""
    · simp [errString, delivered, empty]
    · simp [errString, delivered, empty]

theorem call_connected {impl : Preparer} {broken : String → Option String} {serviceMethod : String}
    {args : Arguments} {result : Except String Unit} (message : String)
    (served : serverCall impl serviceMethod args = .ok (errString result)) :
    (PreparerClient.mk (connected impl broken)).call serviceMethod args message =
      wrapf message (delivered (broken serviceMethod) result) := by
  unfold PreparerClient.call connected
  cases linked : broken serviceMethod with
  | some err => simp only [linked, delivered]
  | none =>
    simp only [linked, served]
    rw [reply_errString]

theorem prepare_connected (impl : Preparer) (broken : String → Option String) (contextPath : String)
    (pluginData : StringMap) :
    (PreparerClient.mk (connected impl broken)).prepare contextPath pluginData =
      wrapf ("failed to prepare " ++ contextPath)
        (delivered (broken prepareServiceMethod) (impl.prepare contextPath pluginData)) :=
  call_connected _ (by simp [serverCall, PreparerServer.prepare])

def silentPlugin : Preparer := ⟨fun _ _ => .error "", .ok ()⟩

example : (PreparerClient.mk (connected silentPlugin intact)).prepare "/ctx" ∅ = .ok () := by decide

/-! ## The driver over RPC -/

theorem forM_toBool_iff {α : Type} (f : α → Except String Unit) (l : List α) :
    (l.forM f).toBool = true ↔ ∀ a ∈ l, f a = .ok () := by
  induction l with
  | nil => simp [Except.toBool, pure, Except.pure]
  | cons a rest ih =>
    simp only [List.forM_eq_forM, List.forM_cons] at ih ⊢
    cases stepped : f a with
    | error err => simp [Except.toBool, bind, Except.bind, stepped]
    | ok u => simp [bind, Except.bind, ih, stepped]

theorem forM_eq_error {α : Type} (f : α → Except String Unit) (l : List α) (err : String)
    (failed : l.forM f = .error err) : ∃ a ∈ l, f a = .error err := by
  induction l with
  | nil => simp [pure, Except.pure] at failed
  | cons a rest ih =>
    simp only [List.forM_eq_forM, List.forM_cons] at ih failed
    cases stepped : f a with
    | error e =>
      simp only [stepped, bind, Except.bind, Except.error.injEq] at failed
      exact ⟨a, List.mem_cons_self .., failed ▸ stepped⟩
    | ok u =>
      simp only [stepped, bind, Except.bind] at failed
      obtain ⟨b, mem, failedAt⟩ := ih failed
      exact ⟨b, List.mem_cons_of_mem a mem, failedAt⟩

theorem prepare_intact (impl : Preparer) (contextPath : String) (pluginData : StringMap) :
    (PreparerClient.mk (connected impl intact)).prepare contextPath pluginData = .ok () ↔
      ∀ err, impl.prepare contextPath pluginData = .error err → err = "" := by
  rw [prepare_connected]
  cases prepared : impl.prepare contextPath pluginData with
  | ok u => simp [intact, delivered, wrapf]
  | error err =>
    by_cases empty : err = ""
    · simp [intact, delivered, wrapf, empty]
    · simp [intact, delivered, wrapf, empty]

variable {P : Type}

/-- With its plugins behind intact RPC connections, `build` solves exactly when
no plugin's `Prepare` failed with a non-empty text, and a failed build failed in
the solve or with the wrapped text of such a plugin. -/
theorem build_over_rpc_solves_iff {bk : Buildkit P} {impl : P → Preparer} {contentsDir : String}
    {opts : BuildOptions} (extracted : bk.extract = .ok contentsDir)
    (overRpc : ∀ plugin, bk.prepare plugin =
      (PreparerClient.mk (connected (impl plugin) intact)).prepare contentsDir opts.pluginData)
    (plugins : List P) (image : String) :
    (Call.solve image ∈ (build bk plugins image opts).1 ↔
      ∀ plugin ∈ plugins, ∀ err, (impl plugin).prepare contentsDir opts.pluginData = .error err → err = "") ∧
    ∀ err, (build bk plugins image opts).2 = .error err →
      bk.solve = .error err ∨ ∃ plugin ∈ plugins, ∃ message, message ≠ "" ∧
        (impl plugin).prepare contentsDir opts.pluginData = .error message ∧
        err = "failed to prepare " ++ contentsDir ++ ": " ++ message := by
  have loops := build_of_extracted bk plugins image opts extracted
  have quiet : Call.solve image ∉ deferredCleanups (preparedPlugins bk plugins) := fun mem => by
    obtain ⟨plugin, same⟩ := mem_deferredCleanups mem
    cases same
  refine ⟨?_, fun err failed => ?_⟩
  · -- the solve is the call between the `Prepare` calls and the cleanups
    rw [loops]
    simp only [List.cons_append, List.mem_cons, List.mem_append, List.mem_map, reduceCtorEq,
      and_false, false_or, or_iff_left quiet]
    rw [← (forM_toBool_iff bk.prepare plugins).trans
      (forall₂_congr fun plugin _ => by rw [overRpc, prepare_intact])]
    split <;> simp_all
  · rw [loops] at failed
    cases looped : plugins.forM bk.prepare with
    | ok u =>
      simp only [looped, bind, Except.bind] at failed
      exact .inl failed
    | error e =>
      simp only [looped, bind, Except.bind, Except.error.injEq] at failed
      subst failed
      obtain ⟨plugin, mem, failedAt⟩ := forM_eq_error bk.prepare plugins e looped
      rw [overRpc, prepare_connected] at failedAt
      right
      refine ⟨plugin, mem, ?_⟩
      cases prepared : (impl plugin).prepare contentsDir opts.pluginData with
      | ok u => simp [prepared, intact, delivered, wrapf] at failedAt
      | error message =>
        by_cases empty : message = ""
        · simp [prepared, intact, delivered, wrapf, empty] at failedAt
        · simp only [prepared, intact, delivered, empty, ↓reduceIte, wrapf, Except.error.injEq] at failedAt
          exact ⟨message, empty, rfl, failedAt.symm⟩

def rpcImpl : Nat → Preparer
  | 0 => silentPlugin
  | _ => ⟨fun _ _ => .ok (), .ok ()⟩

def rpcBuildkit : Buildkit Nat where
  extract := .ok "/mnt/build/extracted"
  prepare := fun plugin => (PreparerClient.mk (connected (rpcImpl plugin) intact)).prepare "/mnt/build/extracted" ∅
  solve := .ok ()
  getImage := fun _ => .ok 0
  tag := fun _ _ _ => .ok ()
  push := fun _ _ => .ok ()

def rpcBuild : BuildOptions :=
  ⟨"https://ctx.example/app.tgz", 0, "app", 0, ∅, [], false, false, 0, [], ["registry.example"], ∅⟩

theorem silent_plugin_error_still_solves :
    (rpcBuildkit.extract = .ok "/mnt/build/extracted" ∧
      ∀ plugin, rpcBuildkit.prepare plugin =
        (PreparerClient.mk (connected (rpcImpl plugin) intact)).prepare "/mnt/build/extracted"
          rpcBuild.pluginData) ∧
    (Call.solve "app" ∈ (build rpcBuildkit [0, 1] "app" rpcBuild).1 ↔
      ∀ plugin ∈ [0, 1], ∀ err,
        (rpcImpl plugin).prepare "/mnt/build/extracted" rpcBuild.pluginData = .error err → err = "") ∧
    ∀ err, (build rpcBuildkit [0, 1] "app" rpcBuild).2 = .error err →
      rpcBuildkit.solve = .error err ∨ ∃ plugin ∈ [0, 1], ∃ message, message ≠ "" ∧
        (rpcImpl plugin).prepare "/mnt/build/extracted" rpcBuild.pluginData = .error message ∧
        err = "failed to prepare " ++ "/mnt/build/extracted" ++ ": " ++ message :=
  ⟨⟨rfl, fun _ => rfl⟩, build_over_rpc_solves_iff rfl (fun _ => rfl) [0, 1] "app"⟩

example : Call.solve "app" ∈ (build rpcBuildkit [0, 1] "app" rpcBuild).1 := by decide

end Forge.Guarantees.PluginRpc
