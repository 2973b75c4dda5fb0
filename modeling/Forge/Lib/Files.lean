import Forge.Lib.FilePath

/-!
# A file system of directories and regular files

The calls of Go's `os` package that unpacking a tree of files makes, on a
file system without links, permission checks or other writers: `Stat`,
`Mkdir`, `MkdirAll`, `OpenFile` with `O_CREATE|O_RDWR`, and writing into an
opened file from its start, as `io.Copy` into a freshly opened file does.

A location is a resolved absolute path with its last element first, so the
parent of a location is its tail and the root is `[]`; `resolve` turns a path
into one, lexically, from the working directory. `MkdirAll` walks the
locations of the path, which is what Go's walk over the prefixes of the path
string does when the path is clean. The file system carries its invariant:
the root is a directory and the parent of every entry is a directory. A
created file gets the mode it is opened with, the process's umask aside.
-/

namespace Forge.Lib.Files
open Forge.Lib.FilePath

/-- A resolved absolute path, its last element first. -/
abbrev Location := List Element

inductive Node where
  | directory
  | file (data : List UInt8) (mode : Nat)
  deriving DecidableEq, Repr

/-- The `syscall.Errno` values these calls fail with. -/
inductive Errno where
  /-- `ENOENT` -/
  | notExist
  /-- `EEXIST` -/
  | exist
  /-- `ENOTDIR` -/
  | notDirectory
  /-- `EISDIR` -/
  | isDirectory
  deriving DecidableEq, Repr

/-- `*os.PathError`: the operation, the location it failed on, and why. -/
structure PathError where
  op : String
  location : Location
  err : Errno
  deriving DecidableEq, Repr

structure FileSystem where
  entry : Location → Option Node
  root_directory : entry [] = some .directory
  parent_directory : ∀ {e : Element} {parent : Location} {node : Node},
    entry (e :: parent) = some node → entry parent = some .directory

namespace FileSystem

/-- The file system with the root directory only. -/
def root : FileSystem where
  entry loc := if loc = [] then some .directory else none
  root_directory := by simp
  parent_directory := by
    intro e parent node present
    simp at present

/-- Put `node` at `e :: parent`, below a directory, where no directory is. -/
def put (fs : FileSystem) (e : Element) (parent : Location) (node : Node)
    (underDirectory : fs.entry parent = some .directory)
    (noDirectory : fs.entry (e :: parent) ≠ some .directory) : FileSystem where
  entry loc := if loc = e :: parent then some node else fs.entry loc
  root_directory := by simp [fs.root_directory]
  parent_directory := by
    intro e' loc node' present
    by_cases here : e' :: loc = e :: parent
    · obtain ⟨-, rfl⟩ := List.cons.inj here
      simp [underDirectory]
    · rw [if_neg here] at present
      have parentDirectory := fs.parent_directory present
      by_cases above : loc = e :: parent
      · exact absurd (above ▸ parentDirectory) noDirectory
      · simp [above, parentDirectory]

@[simp] theorem put_entry (fs : FileSystem) (e : Element) (parent : Location) (node : Node)
    (underDirectory) (noDirectory) (loc : Location) :
    (fs.put e parent node underDirectory noDirectory).entry loc =
      if loc = e :: parent then some node else fs.entry loc := rfl

/-- `os.Stat`: the node at a location, or why the walk from the root fails. -/
def stat (fs : FileSystem) : Location → Except Errno Node
  | [] => .ok .directory
  | e :: parent =>
    match fs.stat parent with
    | .ok .directory =>
      match fs.entry (e :: parent) with
      | some node => .ok node
      | none => .error .notExist
    | .ok (.file ..) => .error .notDirectory
    | .error err => .error err

theorem stat_eq_ok_iff (fs : FileSystem) :
    ∀ (loc : Location) (node : Node), fs.stat loc = .ok node ↔ fs.entry loc = some node
  | [], node => by
    simp only [stat, fs.root_directory, Except.ok.injEq, Option.some.injEq]
  | e :: parent, node => by
    constructor
    · intro found
      simp only [stat] at found
      split at found
      · split at found
        · cases found
          assumption
        · cases found
      · cases found
      · cases found
    · intro present
      have walked := (stat_eq_ok_iff fs parent .directory).mpr (fs.parent_directory present)
      simp [stat, walked, present]

/-- Why the walk to a location that is no directory fails. -/
def walkErrno : Except Errno Node → Errno
  | .error err => err
  | .ok _ => .notDirectory

def mkdir (fs : FileSystem) : Location → Except PathError FileSystem
  | [] => .error ⟨"mkdir", [], .exist⟩
  | e :: parent =>
    match underDirectory : fs.entry parent, present : fs.entry (e :: parent) with
    | some .directory, none => .ok (fs.put e parent .directory underDirectory (by simp [present]))
    | some .directory, some _ => .error ⟨"mkdir", e :: parent, .exist⟩
    | _, _ => .error ⟨"mkdir", e :: parent, walkErrno (fs.stat parent)⟩

/-- `os.MkdirAll`: nothing to do at a directory, an error at a file, and
otherwise the parent first and then the directory; a failed `Mkdir` still
succeeds when a directory is there after all. -/
def mkdirAll (fs : FileSystem) : Location → Except PathError FileSystem
  | [] => .ok fs
  | e :: parent =>
    match fs.stat (e :: parent) with
    | .ok .directory => .ok fs
    | .ok (.file ..) => .error ⟨"mkdir", e :: parent, .notDirectory⟩
    | .error _ =>
      match mkdirAll fs parent with
      | .error err => .error err
      | .ok made =>
        match mkdir made (e :: parent) with
        | .ok done => .ok done
        | .error err =>
          if made.entry (e :: parent) = some .directory then .ok made else .error err

/-- `os.OpenFile(path, O_CREATE|O_RDWR, mode)`: an existing file is opened as
it is, without truncation; a missing one is created empty below a directory. -/
def openFile (fs : FileSystem) (loc : Location) (mode : Nat) : Except PathError FileSystem :=
  match loc with
  | [] => .error ⟨"open", [], .isDirectory⟩
  | e :: parent =>
    match underDirectory : fs.entry parent, present : fs.entry (e :: parent) with
    | some .directory, none =>
      .ok (fs.put e parent (.file [] mode) underDirectory (by simp [present]))
    | some .directory, some .directory => .error ⟨"open", e :: parent, .isDirectory⟩
    | some .directory, some (.file ..) => .ok fs
    | _, _ => .error ⟨"open", e :: parent, walkErrno (fs.stat parent)⟩

/-- Write `data` into the file at a location from its start; what lies past
the end of `data` stays. -/
def writeFrom (fs : FileSystem) (loc : Location) (data : List UInt8) : FileSystem :=
  match loc with
  | [] => fs
  | e :: parent =>
    match present : fs.entry (e :: parent) with
    | some (.file old mode) =>
      fs.put e parent (.file (data ++ old.drop data.length) mode) (fs.parent_directory present)
        (by simp [present])
    | _ => fs

end FileSystem

/-! ## What the calls change -/

/-- Every location where `fs'` differs from `fs` satisfies `S`: everything
else is unchanged. -/
def ChangedOnly (fs fs' : FileSystem) (S : Location → Prop) : Prop :=
  ∀ loc, fs'.entry loc ≠ fs.entry loc → S loc

theorem ChangedOnly.refl (fs : FileSystem) (S : Location → Prop) : ChangedOnly fs fs S :=
  fun _ changed => absurd rfl changed

theorem ChangedOnly.trans {fs₁ fs₂ fs₃ : FileSystem} {S T : Location → Prop}
    (first : ChangedOnly fs₁ fs₂ S) (second : ChangedOnly fs₂ fs₃ T) :
    ChangedOnly fs₁ fs₃ fun loc => S loc ∨ T loc := by
  intro loc changed
  by_cases secondChanged : fs₃.entry loc = fs₂.entry loc
  · exact .inl (first loc (secondChanged ▸ changed))
  · exact .inr (second loc secondChanged)

theorem ChangedOnly.mono {fs fs' : FileSystem} {S T : Location → Prop}
    (changed : ChangedOnly fs fs' S) (weaker : ∀ loc, S loc → T loc) : ChangedOnly fs fs' T :=
  fun loc differs => weaker loc (changed loc differs)

theorem ChangedOnly.entry_eq {fs fs' : FileSystem} {S : Location → Prop} (changed : ChangedOnly fs fs' S)
    {loc : Location} (outside : ¬ S loc) : fs'.entry loc = fs.entry loc :=
  Classical.byContradiction fun differs => outside (changed loc differs)

/-- The bytes of a file that held `old` after `data` is written from its
start. -/
def overwrite (old data : List UInt8) : List UInt8 := data ++ old.drop data.length

namespace FileSystem

theorem changedOnly_put (fs : FileSystem) (e : Element) (parent : Location) (node : Node)
    (underDirectory) (noDirectory) :
    ChangedOnly fs (fs.put e parent node underDirectory noDirectory) (· = e :: parent) := by
  intro loc changed
  by_contra elsewhere
  exact changed (by simp [elsewhere])

theorem changedOnly_mkdir {fs fs' : FileSystem} {loc : Location} (made : fs.mkdir loc = .ok fs') :
    ChangedOnly fs fs' (· = loc) := by
  unfold mkdir at made
  split at made
  · cases made
  · split at made
    · cases made
      exact changedOnly_put _ _ _ _ _ _
    · cases made
    · cases made

theorem changedOnly_mkdirAll (fs : FileSystem) :
    ∀ (loc : Location) {fs' : FileSystem}, fs.mkdirAll loc = .ok fs' → ChangedOnly fs fs' (· <:+ loc)
  | [], fs', made => by
    cases made
    exact ChangedOnly.refl _ _
  | e :: parent, fs', made => by
    unfold mkdirAll at made
    split at made
    · cases made
      exact ChangedOnly.refl _ _
    · cases made
    · split at made
      · cases made
      · rename_i above madeAbove
        have first := (changedOnly_mkdirAll fs parent madeAbove).mono
          fun loc suffix => suffix.trans (List.suffix_cons e parent)
        split at made
        · cases made
          exact (first.trans (changedOnly_mkdir (by assumption))).mono fun loc either =>
            either.elim id fun same => same ▸ List.suffix_refl _
        · split at made
          · cases made
            exact first
          · cases made

theorem changedOnly_openFile {fs fs' : FileSystem} {loc : Location} {mode : Nat}
    (opened : fs.openFile loc mode = .ok fs') : ChangedOnly fs fs' (· = loc) := by
  unfold openFile at opened
  split at opened
  · cases opened
  · split at opened
    · cases opened
      exact changedOnly_put _ _ _ _ _ _
    · cases opened
    · cases opened
      exact ChangedOnly.refl _ _
    · cases opened

theorem changedOnly_writeFrom (fs : FileSystem) (loc : Location) (data : List UInt8) :
    ChangedOnly fs (fs.writeFrom loc data) (· = loc) := by
  unfold writeFrom
  split
  · exact ChangedOnly.refl _ _
  · split
    · exact changedOnly_put _ _ _ _ _ _
    · exact ChangedOnly.refl _ _

/-! ## What the calls do to files -/

theorem mkdir_file_iff {fs fs' : FileSystem} {loc : Location} (made : fs.mkdir loc = .ok fs')
    (loc' : Location) (data : List UInt8) (mode : Nat) :
    fs'.entry loc' = some (.file data mode) ↔ fs.entry loc' = some (.file data mode) := by
  unfold mkdir at made
  split at made
  · cases made
  · split at made
    · rename_i e parent _ present
      cases made
      rw [put_entry]
      split
      · rename_i here
        rw [here, present]
        simp
      · rfl
    · cases made
    · cases made

theorem mkdirAll_file_iff (fs : FileSystem) :
    ∀ (loc : Location) {fs' : FileSystem}, fs.mkdirAll loc = .ok fs' →
      ∀ loc' data mode, fs'.entry loc' = some (.file data mode) ↔ fs.entry loc' = some (.file data mode)
  | [], fs', made, loc', data, mode => by
    cases made
    rfl
  | e :: parent, fs', made, loc', data, mode => by
    unfold mkdirAll at made
    split at made
    · cases made
      rfl
    · cases made
    · split at made
      · cases made
      · rename_i above madeAbove
        have first := mkdirAll_file_iff fs parent madeAbove loc' data mode
        split at made
        · cases made
          exact (mkdir_file_iff (by assumption) loc' data mode).trans first
        · split at made
          · cases made
            exact first
          · cases made

/-- `OpenFile` with `O_CREATE|O_RDWR` creates an empty file where nothing
was, or opens the file that is there as it is. -/
theorem openFile_cases {fs fs' : FileSystem} {loc : Location} {mode : Nat}
    (opened : fs.openFile loc mode = .ok fs') :
    (fs.entry loc = none ∧ fs'.entry loc = some (.file [] mode)) ∨
      (∃ data mode', fs.entry loc = some (.file data mode')) ∧ fs' = fs := by
  unfold openFile at opened
  split at opened
  · cases opened
  · split at opened
    · rename_i e parent _ present
      cases opened
      exact .inl ⟨present, by simp⟩
    · cases opened
    · rename_i e parent _ _ _ present
      cases opened
      exact .inr ⟨⟨_, _, present⟩, rfl⟩
    · cases opened

theorem writeFrom_file {fs : FileSystem} {loc : Location} {old : List UInt8} {mode : Nat}
    (present : fs.entry loc = some (.file old mode)) (data : List UInt8) :
    (fs.writeFrom loc data).entry loc = some (.file (overwrite old data) mode) := by
  cases loc with
  | nil =>
    rw [fs.root_directory] at present
    cases present
  | cons e parent =>
    simp only [writeFrom]
    split
    · rename_i old' mode' present'
      rw [present] at present'
      cases present'
      simp [overwrite]
    · rename_i notFile
      exact absurd present (notFile old mode)

end FileSystem

/-- The location a path names from the working directory `cwd`, lexically. -/
def resolve (cwd : Location) (p : List Char) : Location :=
  (if isRooted p then elements p else cwd.reverse ++ elements p).foldl (cleanStep true) []

example : resolve [] "/mnt/build/../src/./main.go".toList = ["main.go", "src", "mnt"].map String.toList := by
  decide

end Forge.Lib.Files
