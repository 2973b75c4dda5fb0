import Forge.Source.Api
import Forge.Lib.Walk
import Forge.Lib.Strings

/-!
# The preparer plugins

Source: `plugins/preparer`: the RPC client (`client.go`) and server
(`server.go`) of the `Preparer` interface (`interface.go`), `Plugin`
(`plugin.go`), `NewPreparerPlugin` (`preparer.go`) and `loadPlugins`
(`loader.go`); and `errors.Wrap`/`Wrapf` of the vendored `github.com/pkg/errors`.

A plugin is a process that go-plugin starts and talks to over `net/rpc`. The
process serves `preparerServer` around the plugin's own `Preparer`, registered
as `Plugin`. Its methods never return an error: they put the text of the
plugin's error, or nothing, in the reply `errStr`. `net/rpc` delivers the reply
of a method that returned nil and refuses a method the server lacks; a call
over a broken connection fails with the connection's error. The host's
`preparerClient` turns a non-empty reply into an error, and reads an empty one
as success.

`NewPreparerPlugin` starts the process, creates its RPC client and dispenses
the `preparer` plugin. go-plugin kills the process itself when `Start` fails
after launching it; when creating the client or dispensing fails, the process
keeps running. A process is named by the number of processes left running
before it.

`loadPlugins` walks the plugins path (`Lib.Walk`) and loads each path that is
not a directory. Its results are named, so a failed load returns the plugins
loaded before it along with the error.
-/

namespace Forge.Source.Plugins
open Forge.Source.Api Forge.Lib.Strings Forge.Lib.Walk

/-- `errors.Wrapf(err, message)`, and `errors.Wrap`: nil stays nil, an error
gets the message before its text. -/
def wrapf (message : String) : Except String Unit → Except String Unit
  | .ok () => .ok ()
  | .error err => .error (message ++ ": " ++ err)

/-! ## The RPC protocol -/

/-- The `Preparer` interface. -/
structure Preparer where
  prepare : String → StringMap → Except String Unit
  cleanup : Except String Unit

structure Arguments where
  contextPath : String
  pluginData : StringMap

def prepareServiceMethod : String := "Plugin.Prepare"

def cleanupServiceMethod : String := "Plugin.Cleanup"

/-- `*errStr = err.Error()` on an error of the plugin: the reply of a method
of `preparerServer`, which itself returns nil. -/
def errString : Except String Unit → String
  | .ok () => ""
  | .error err => err

def PreparerServer.prepare (impl : Preparer) (args : Arguments) : String :=
  errString (impl.prepare args.contextPath args.pluginData)

def PreparerServer.cleanup (impl : Preparer) (_ : Arguments) : String :=
  errString impl.cleanup

/-- `net/rpc` serving a call on the plugin's `preparerServer`: the reply of
the method, since it returns nil, or the refusal of an unknown method. -/
def serverCall (impl : Preparer) (serviceMethod : String) (args : Arguments) : Except String String :=
  if serviceMethod = prepareServiceMethod then .ok (PreparerServer.prepare impl args)
  else if serviceMethod = cleanupServiceMethod then .ok (PreparerServer.cleanup impl args)
  else .error ("rpc: can't find service " ++ serviceMethod)

/-- `rpcClient.Call(serviceMethod, args, &errStr)`: the call's error, or the
reply. -/
abbrev RpcClient := String → Arguments → Except String String

/-- The client of a connection to a process serving `impl`: a call fails
with the error of the connection when it is broken (`broken serviceMethod`),
and gets the server's answer otherwise. -/
def connected (impl : Preparer) (broken : String → Option String) : RpcClient :=
  fun serviceMethod args =>
    match broken serviceMethod with
    | some err => .error err
    | none => serverCall impl serviceMethod args

structure PreparerClient where
  client : RpcClient

/-- The shape of both methods of `preparerClient`: call, turn a non-empty
reply into an error, and wrap. -/
def PreparerClient.call (p : PreparerClient) (serviceMethod : String) (args : Arguments)
    (message : String) : Except String Unit :=
  wrapf message <|
    match p.client serviceMethod args with
    | .error err => .error err
    | .ok errStr => if errStr ≠ "" then .error errStr else .ok ()

def PreparerClient.prepare (p : PreparerClient) (contextPath : String) (pluginData : StringMap) :
    Except String Unit :=
  p.call prepareServiceMethod ⟨contextPath, pluginData⟩ ("failed to prepare " ++ contextPath)

/-- `preparerClient.Cleanup`, with the zero `Arguments`. -/
def PreparerClient.cleanup (p : PreparerClient) : Except String Unit :=
  p.call cleanupServiceMethod ⟨"", ∅⟩ "failed to cleanup"

/-- The `Preparer` the host holds for a process serving `impl`: the RPC
client `Plugin.Client` returns. -/
def PreparerClient.toPreparer (p : PreparerClient) : Preparer :=
  ⟨p.prepare, p.cleanup⟩

/-! ## Loading -/

/-- What `NewPreparerPlugin` meets at a location. -/
inductive Launch where
  /-- `Start` fails; no process is left running -/
  | startFailed (err : String)
  /-- the process runs and creating its RPC client fails -/
  | clientFailed (err : String)
  /-- the process runs and `Dispense("preparer")` fails -/
  | dispenseFailed (err : String)
  /-- the process runs and serves `impl` over a connection broken for the
  calls `broken` names -/
  | served (impl : Preparer) (broken : String → Option String)

/-- Whether a launch leaves a process running. -/
def Launch.leavesProcess : Launch → Bool
  | .startFailed _ => false
  | _ => true

/-- `Plugin`: the go-plugin client of a running process, and the
`Preparer` dispensed from it. -/
structure Plugin where
  process : Nat
  location : String
  preparer : Preparer

/-- `NewPreparerPlugin(location)`, for a launch whose process would be
number `process`. -/
def newPreparerPlugin (launch : Launch) (process : Nat) (location : String) : Except String Plugin :=
  match launch with
  | .startFailed err | .clientFailed err =>
    .error ("rpc client create failed for " ++ quote location ++ ": " ++ err)
  | .dispenseFailed err => .error ("cannot dispense rpc client for " ++ quote location ++ ": " ++ err)
  | .served impl broken => .ok ⟨process, location, (PreparerClient.mk (connected impl broken)).toPreparer⟩

/-- The named results of `loadPlugins` as the walk goes, with the processes
left running so far. -/
structure Loading where
  plugins : List Plugin
  started : Nat

def noneLoaded : Loading := ⟨[], 0⟩

/-- The function `loadPlugins` walks with. -/
def loadVisit (launch : String → Launch) : WalkFunc Loading := fun path visit s =>
  match visit with
  | .error err => (s, .error err)
  | .dir => (s, .ok ())
  | .file =>
    let started := if (launch path).leavesProcess then s.started + 1 else s.started
    match newPreparerPlugin (launch path) s.started path with
    | .error err => ({ s with started }, .error err)
    | .ok plugin => (⟨s.plugins ++ [plugin], started⟩, .ok ())

/-- `loadPlugins(preparerPluginsPath, NewPreparerPlugin)`. `root` is the
path as the walk finds it, and `none` when `os.Stat` reports that it does
not exist. -/
def loadPlugins (launch : String → Launch) (preparerPluginsPath : String) (root : Option Tree) :
    Loading × Except String Unit :=
  if preparerPluginsPath = "" then (noneLoaded, .ok ())
  else
    match root with
    | none => (noneLoaded, .ok ())
    | some tree => walk (loadVisit launch) preparerPluginsPath tree noneLoaded

/-! ## What one visit does -/

/-- Whether a launch serves a plugin. -/
def Launch.served? : Launch → Bool
  | .served _ _ => true
  | _ => false

/-- Whether the loader goes on past a visit: a directory, or a file whose
launch serves. -/
def goesOn (launch : String → Launch) : String × Visit → Bool
  | (_, .dir) => true
  | (path, .file) => (launch path).served?
  | (_, .error _) => false

/-- The paths of the files among visits. -/
def filesOf (vs : List (String × Visit)) : List String :=
  vs.filterMap fun v => if v.2 = .file then some v.1 else none

theorem filesOf_append (first rest : List (String × Visit)) :
    filesOf (first ++ rest) = filesOf first ++ filesOf rest :=
  List.filterMap_append

/-- The loader's state between visits: its plugins are the processes started
so far, numbered in order. -/
def Loading.Numbered (s : Loading) : Prop :=
  s.plugins.map (·.process) = List.range s.plugins.length ∧ s.started = s.plugins.length

theorem noneLoaded_numbered : noneLoaded.Numbered := ⟨rfl, rfl⟩

theorem loadVisit_of_ok {launch : String → Launch} {path : String} {visit : Visit} {s s' : Loading}
    (step : loadVisit launch path visit s = (s', .ok ())) :
    (visit = .dir ∧ s' = s) ∨
      ∃ impl broken, visit = .file ∧ launch path = .served impl broken ∧
        s' = ⟨s.plugins ++ [⟨s.started, path, (PreparerClient.mk (connected impl broken)).toPreparer⟩],
          s.started + 1⟩ := by
  cases visit with
  | error err => simp [loadVisit] at step
  | dir =>
    simp only [loadVisit, Prod.mk.injEq] at step
    exact .inl ⟨rfl, step.1.symm⟩
  | file =>
    right
    cases launched : launch path with
    | startFailed err => simp [loadVisit, launched, newPreparerPlugin] at step
    | clientFailed err => simp [loadVisit, launched, newPreparerPlugin] at step
    | dispenseFailed err => simp [loadVisit, launched, newPreparerPlugin] at step
    | served impl broken =>
      simp only [loadVisit, launched, newPreparerPlugin, Launch.leavesProcess, Prod.mk.injEq] at step
      exact ⟨impl, broken, rfl, rfl, step.1.symm⟩

/-- A visit that stops the walk keeps the plugins, and leaves one more
process running exactly when the file's launch left one. -/
theorem loadVisit_of_error {launch : String → Launch} {path : String} {visit : Visit} {s s' : Loading}
    {err : String} (step : loadVisit launch path visit s = (s', .error err)) :
    s'.plugins = s.plugins ∧
      s'.started = s.started + (if visit = .file ∧ (launch path).leavesProcess then 1 else 0) := by
  cases visit with
  | error e =>
    simp only [loadVisit, Prod.mk.injEq] at step
    simp [← step.1]
  | dir => simp [loadVisit] at step
  | file =>
    cases launched : launch path with
    | served impl broken => simp [loadVisit, launched, newPreparerPlugin] at step
    | startFailed e | clientFailed e | dispenseFailed e =>
      simp only [loadVisit, launched, newPreparerPlugin, Prod.mk.injEq] at step
      simp [← step.1, Launch.leavesProcess]

theorem loadVisit_of_goesOn {launch : String → Launch} {v : String × Visit} {s : Loading}
    (goes : goesOn launch v = true) (numbered : s.Numbered) :
    ∃ s', loadVisit launch v.1 v.2 s = (s', .ok ()) ∧ s'.Numbered ∧
      s'.plugins.map (·.location) = s.plugins.map (·.location) ++ filesOf [v] := by
  obtain ⟨path, visit⟩ := v
  cases visit with
  | error err => simp [goesOn] at goes
  | dir => exact ⟨s, rfl, numbered, by simp [filesOf]⟩
  | file =>
    cases launched : launch path with
    | served impl broken =>
      refine ⟨⟨s.plugins ++ [⟨s.started, path, (PreparerClient.mk (connected impl broken)).toPreparer⟩],
        s.started + 1⟩, by simp [loadVisit, launched, newPreparerPlugin, Launch.leavesProcess], ?_, ?_⟩
      · -- the new plugin takes the next number
        obtain ⟨processes, started⟩ := numbered
        refine ⟨?_, by simp [started]⟩
        simp [processes, started, List.range_succ]
      · simp [filesOf]
    | startFailed err | clientFailed err | dispenseFailed err =>
      simp [goesOn, launched, Launch.served?] at goes

theorem loadVisit_of_stops {launch : String → Launch} {v : String × Visit} (s : Loading)
    (stops : goesOn launch v = false) :
    ∃ s' err, loadVisit launch v.1 v.2 s = (s', .error err) ∧
      (v.2 = .error err ∨ ∃ n, newPreparerPlugin (launch v.1) n v.1 = .error err) := by
  obtain ⟨path, visit⟩ := v
  cases visit with
  | error err => exact ⟨s, err, rfl, .inl rfl⟩
  | dir => simp [goesOn] at stops
  | file =>
    cases launched : launch path with
    | served impl broken => simp [goesOn, launched, Launch.served?] at stops
    | startFailed err | clientFailed err | dispenseFailed err =>
      simp only [loadVisit, launched, newPreparerPlugin]
      exact ⟨_, _, rfl, .inr ⟨s.started, rfl⟩⟩

theorem visitAll_loadVisit_of_goesOn (launch : String → Launch) :
    ∀ (done : List (String × Visit)) (s : Loading), (∀ v ∈ done, goesOn launch v = true) → s.Numbered →
      ∃ s', visitAll (loadVisit launch) done s = (s', .ok ()) ∧ s'.Numbered ∧
        s'.plugins.map (·.location) = s.plugins.map (·.location) ++ filesOf done
  | [], s, _, numbered => ⟨s, rfl, numbered, by simp [filesOf]⟩
  | v :: rest, s, going, numbered => by
    obtain ⟨s₁, stepped, numbered₁, added₁⟩ :=
      loadVisit_of_goesOn (going v (List.mem_cons_self ..)) numbered
    obtain ⟨s₂, ran, numbered₂, added₂⟩ := visitAll_loadVisit_of_goesOn launch rest s₁
      (fun w mem => going w (List.mem_cons_of_mem v mem)) numbered₁
    refine ⟨s₂, ?_, numbered₂, ?_⟩
    · rw [visitAll_cons, stepped]
      exact ran
    · rw [added₂, added₁, List.append_assoc, ← filesOf_append]
      rfl

theorem numbered_loadVisit {launch : String → Launch} {path : String} {visit : Visit} {s s' : Loading}
    (step : loadVisit launch path visit s = (s', .ok ())) (numbered : s.Numbered) : s'.Numbered := by
  rcases loadVisit_of_ok step with ⟨-, rfl⟩ | ⟨impl, broken, -, -, rfl⟩
  · exact numbered
  · obtain ⟨processes, started⟩ := numbered
    refine ⟨?_, by simp [started]⟩
    simp [processes, started, List.range_succ]

theorem numbered_visitAll_loadVisit (launch : String → Launch) :
    ∀ (vs : List (String × Visit)) (s : Loading), s.Numbered →
      (visitAll (loadVisit launch) vs s).2 = .ok () → (visitAll (loadVisit launch) vs s).1.Numbered
  | [], s, numbered, _ => numbered
  | (path, visit) :: rest, s, numbered, ran => by
    rw [visitAll_cons] at ran ⊢
    cases stepped : loadVisit launch path visit s with
    | mk s₁ result =>
      cases result with
      | error err =>
        rw [stepped] at ran
        cases ran
      | ok u =>
        cases u
        rw [stepped] at ran
        exact numbered_visitAll_loadVisit launch rest s₁ (numbered_loadVisit stepped numbered) ran

/-- A load that succeeds has numbered its plugins as the processes it
started. -/
theorem numbered_loadPlugins {launch : String → Launch} {preparerPluginsPath : String} {root : Option Tree}
    (loaded : (loadPlugins launch preparerPluginsPath root).2 = .ok ()) :
    (loadPlugins launch preparerPluginsPath root).1.Numbered := by
  unfold loadPlugins at loaded ⊢
  split
  · exact noneLoaded_numbered
  · rename_i named
    rw [if_neg named] at loaded
    cases root with
    | none => exact noneLoaded_numbered
    | some tree =>
      dsimp only at loaded ⊢
      rw [walk_eq_visitAll] at loaded ⊢
      exact numbered_visitAll_loadVisit launch _ noneLoaded noneLoaded_numbered loaded

end Forge.Source.Plugins
