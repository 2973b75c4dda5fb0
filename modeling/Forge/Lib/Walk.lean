import Forge.Lib.FilePath

/-!
# Walking a directory tree

`filepath.Walk(root, fn)` of Go's standard library, for a walk function that
never returns `SkipDir`. The tree is what the walk finds: a path that `Lstat`
does not report as a directory (a symbolic link included), a directory with
its names in the sorted order `readDirNames` returns them, or a path whose
`Lstat` or directory read fails. The walk calls the function on a path before
the paths below it, gives it the error of a path that failed, and returns the
first error the function returns; the function's state is threaded through.

A walk is the function folded over the tree's visits in preorder, stopped at
its first error (`walk_eq_visitAll`), so what a walk does is read off a list.
-/

namespace Forge.Lib.Walk

/-- What the walk finds at a path. -/
inductive Tree where
  | file
  | dir (entries : List (String × Tree))
  | failed (err : String)

/-- What the walk function is told about a path. -/
inductive Visit where
  | file
  | dir
  | error (err : String)
  deriving DecidableEq, Repr

/-- `filepath.Join(dir, name)`. -/
def joinPath (dir name : String) : String :=
  String.ofList (FilePath.join dir.toList name.toList)

/-- A walk function: its answer for a path, on the state it threads. -/
abbrev WalkFunc (σ : Type) := String → Visit → σ → σ × Except String Unit

variable {σ : Type}

mutual
/-- `walk(path, info, walkFn)`, entered with the result of `Lstat`. -/
def walk (fn : WalkFunc σ) (path : String) : Tree → σ → σ × Except String Unit
  | .file, s => fn path .file s
  | .failed err, s => fn path (.error err) s
  | .dir entries, s =>
    match fn path .dir s with
    | (s, .error err) => (s, .error err)
    | (s, .ok ()) => walkEntries fn path entries s

/-- The loop of `walk` over the names of a directory. -/
def walkEntries (fn : WalkFunc σ) (path : String) : List (String × Tree) → σ → σ × Except String Unit
  | [], s => (s, .ok ())
  | (name, tree) :: rest, s =>
    match walk fn (joinPath path name) tree s with
    | (s, .error err) => (s, .error err)
    | (s, .ok ()) => walkEntries fn path rest s
end

mutual
/-- The visits of a walk that nothing stops, in the order it makes them. -/
def visits (path : String) : Tree → List (String × Visit)
  | .file => [(path, .file)]
  | .failed err => [(path, .error err)]
  | .dir entries => (path, .dir) :: entryVisits path entries

def entryVisits (path : String) : List (String × Tree) → List (String × Visit)
  | [] => []
  | (name, tree) :: rest => visits (joinPath path name) tree ++ entryVisits path rest
end

/-- The walk function over a list of visits, stopped at its first error. -/
def visitAll (fn : WalkFunc σ) : List (String × Visit) → σ → σ × Except String Unit
  | [], s => (s, .ok ())
  | (path, visit) :: rest, s =>
    match fn path visit s with
    | (s, .error err) => (s, .error err)
    | (s, .ok ()) => visitAll fn rest s

/-- Then running the rest of the visits after a run that did not fail. -/
def andThen (fn : WalkFunc σ) (rest : List (String × Visit)) :
    σ × Except String Unit → σ × Except String Unit
  | (s, .error err) => (s, .error err)
  | (s, .ok ()) => visitAll fn rest s

@[simp] theorem andThen_nil (fn : WalkFunc σ) : ∀ run : σ × Except String Unit, andThen fn [] run = run
  | (_, .error _) => rfl
  | (_, .ok ()) => rfl

theorem visitAll_cons (fn : WalkFunc σ) (path : String) (visit : Visit)
    (rest : List (String × Visit)) (s : σ) :
    visitAll fn ((path, visit) :: rest) s = andThen fn rest (fn path visit s) :=
  rfl

theorem visitAll_append (fn : WalkFunc σ) :
    ∀ (first rest : List (String × Visit)) (s : σ),
      visitAll fn (first ++ rest) s = andThen fn rest (visitAll fn first s)
  | [], rest, s => rfl
  | (path, visit) :: first, rest, s => by
    rw [List.cons_append, visitAll_cons, visitAll_cons]
    cases fn path visit s with
    | mk s result =>
      cases result with
      | error err => rfl
      | ok u => exact visitAll_append fn first rest s

mutual
/-- A walk is its function folded over its visits. -/
theorem walk_eq_visitAll (fn : WalkFunc σ) (path : String) :
    ∀ (tree : Tree) (s : σ), walk fn path tree s = visitAll fn (visits path tree) s
  | .file, s => by rw [walk, visits, visitAll_cons, andThen_nil]
  | .failed err, s => by rw [walk, visits, visitAll_cons, andThen_nil]
  | .dir entries, s => by
    simp only [walk, visits, visitAll_cons]
    cases fn path .dir s with
    | mk s result =>
      cases result with
      | error err => rfl
      | ok u => exact walkEntries_eq_visitAll fn path entries s

theorem walkEntries_eq_visitAll (fn : WalkFunc σ) (path : String) :
    ∀ (entries : List (String × Tree)) (s : σ),
      walkEntries fn path entries s = visitAll fn (entryVisits path entries) s
  | [], s => rfl
  | (name, tree) :: rest, s => by
    simp only [walkEntries, entryVisits, visitAll_append, ← walk_eq_visitAll fn (joinPath path name) tree s]
    cases walk fn (joinPath path name) tree s with
    | mk s result =>
      cases result with
      | error err => rfl
      | ok u => exact walkEntries_eq_visitAll fn path rest s
end

end Forge.Lib.Walk
