import Forge.Lib.Files

/-!
# Unpacking the build context

Source: `internal/archive/extract.go`: `extract`, and the steps of
`FetchAndExtract` around it.

The tar stream is what `tar.Reader.Next` returns call after call: an entry's
header with the bytes its body yields (and the error that cut it short, if
any), no header, the end of the archive, or an error. Opening the archive
file, and for a gzip archive reading its header, happen before the loop and
may fail; that is the `Except` around the stream. Each entry's target is
`filepath.Join(dst, header.Name)`, resolved from the working directory. The
effects are the `MkdirAll` and `OpenFile` calls in the order they are made,
a failing last one included.

`FetchAndExtract` is modelled from `AssertDir` on: the download with its
backoff and the content-type sniffing are results handed in, and the file
the download writes (`wd/archive`) is not part of the file system here.
Write errors of the file system are not modelled.
-/

namespace Forge.Source.Archive
open Forge.Lib.FilePath Forge.Lib.Files

/-- `tar.TypeDir`, the byte `'5'`. -/
def typeDir : UInt8 := 53

/-- `tar.TypeReg`, the byte `'0'`. -/
def typeReg : UInt8 := 48

/-- The `tar.Header` fields `extract` reads. -/
structure Header where
  name : String
  typeflag : UInt8
  mode : Nat
  deriving DecidableEq, Repr

/-- One call of `tr.Next()`. -/
inductive Next where
  /-- a header, the bytes of the entry's body, and the error that ended it early -/
  | entry (header : Header) (data : List UInt8) (readError : Option String)
  /-- no header and no error -/
  | noHeader
  /-- `io.EOF` -/
  | eof
  | failed (message : String)
  deriving DecidableEq, Repr

/-- The header names of the entries of a stream. -/
def entryNames : List Next → List String
  | [] => []
  | .entry header _ _ :: rest => header.name :: entryNames rest
  | _ :: rest => entryNames rest

/-- A call `extract` makes on the file system, with the path it passes. -/
inductive Effect where
  | mkdirAll (path : List Char)
  | openFile (path : List Char)
  deriving DecidableEq, Repr

def Effect.path : Effect → List Char
  | .mkdirAll path => path
  | .openFile path => path

inductive ExtractError where
  | archive (message : String)
  | path (err : PathError)
  deriving DecidableEq, Repr

/-- The file system after `extract`, the calls it made, and what it returned. -/
structure ExtractRun where
  fs : FileSystem
  effects : List Effect
  result : Except ExtractError Unit

def ExtractRun.after (effect : Effect) (run : ExtractRun) : ExtractRun :=
  { run with effects := effect :: run.effects }

@[simp] theorem ExtractRun.after_fs (effect : Effect) (run : ExtractRun) : (run.after effect).fs = run.fs :=
  rfl

@[simp] theorem ExtractRun.after_result (effect : Effect) (run : ExtractRun) :
    (run.after effect).result = run.result :=
  rfl

/-- The loop of `extract` over the calls of `tr.Next()`; the end of the list
is `io.EOF`. -/
def extractEntries (cwd : Location) (dst : List Char) : List Next → FileSystem → ExtractRun
  | [], fs => ⟨fs, [], .ok ()⟩
  | .eof :: _, fs => ⟨fs, [], .ok ()⟩
  | .failed message :: _, fs => ⟨fs, [], .error (.archive message)⟩
  | .noHeader :: rest, fs => extractEntries cwd dst rest fs
  | .entry header data readError :: rest, fs =>
    let target := join dst header.name.toList
    if header.typeflag = typeDir then
      match fs.mkdirAll (resolve cwd target) with
      | .error err => ⟨fs, [.mkdirAll target], .error (.path err)⟩
      | .ok made => (extractEntries cwd dst rest made).after (.mkdirAll target)
    else if header.typeflag = typeReg then
      match fs.openFile (resolve cwd target) header.mode with
      | .error err => ⟨fs, [.openFile target], .error (.path err)⟩
      | .ok opened =>
        -- `io.Copy` has written what the body yielded before a read error
        let written := opened.writeFrom (resolve cwd target) data
        match readError with
        | some message => ⟨written, [.openFile target], .error (.archive message)⟩
        | none => (extractEntries cwd dst rest written).after (.openFile target)
    else extractEntries cwd dst rest fs

def extract (archive : Except String (List Next)) (cwd : Location) (dst : List Char)
    (fs : FileSystem) : ExtractRun :=
  match archive with
  | .error message => ⟨fs, [], .error (.archive message)⟩
  | .ok entries => extractEntries cwd dst entries fs

/-- Every call `extract` makes is on the join of `dst` with an entry's name. -/
theorem mem_effects_extractEntries (cwd : Location) (dst : List Char) :
    ∀ (entries : List Next) (fs : FileSystem), ∀ effect ∈ (extractEntries cwd dst entries fs).effects,
      ∃ name ∈ entryNames entries, effect.path = join dst name.toList
  | [], fs, effect, mem => by simp [extractEntries] at mem
  | .eof :: _, fs, effect, mem => by simp [extractEntries] at mem
  | .failed _ :: _, fs, effect, mem => by simp [extractEntries] at mem
  | .noHeader :: rest, fs, effect, mem => by
    obtain ⟨name, named, path⟩ := mem_effects_extractEntries cwd dst rest fs effect mem
    exact ⟨name, by simpa [entryNames] using named, path⟩
  | .entry header data readError :: rest, fs, effect, mem => by
    have later : ∀ fs', effect ∈ (extractEntries cwd dst rest fs').effects →
        ∃ name ∈ entryNames (.entry header data readError :: rest),
          effect.path = join dst name.toList := fun fs' mem' => by
      obtain ⟨name, named, path⟩ := mem_effects_extractEntries cwd dst rest fs' effect mem'
      exact ⟨name, List.mem_cons_of_mem _ named, path⟩
    have own : ∀ path, (effect = .mkdirAll path ∨ effect = .openFile path) →
        path = join dst header.name.toList →
        ∃ name ∈ entryNames (.entry header data readError :: rest),
          effect.path = join dst name.toList := by
      rintro path (rfl | rfl) rfl <;> exact ⟨header.name, List.mem_cons_self, rfl⟩
    simp only [extractEntries] at mem
    split at mem
    · split at mem
      · simpa using own _ (.inl (List.mem_singleton.mp mem)) rfl
      · rcases List.mem_cons.mp mem with here | there
        · exact own _ (.inl here) rfl
        · exact later _ there
    · split at mem
      · split at mem
        · simpa using own _ (.inr (List.mem_singleton.mp mem)) rfl
        · split at mem
          · simpa using own _ (.inr (List.mem_singleton.mp mem)) rfl
          · rcases List.mem_cons.mp mem with here | there
            · exact own _ (.inr here) rfl
            · exact later _ there
      · exact later _ mem

theorem mem_effects_extract (archive : Except String (List Next)) (cwd : Location)
    (dst : List Char) (fs : FileSystem) :
    ∀ effect ∈ (extract archive cwd dst fs).effects, ∃ entries, archive = .ok entries ∧
      ∃ name ∈ entryNames entries, effect.path = join dst name.toList := by
  intro effect mem
  cases archive with
  | error message => simp [extract] at mem
  | ok entries => exact ⟨entries, rfl, mem_effects_extractEntries cwd dst entries fs effect mem⟩

/-- A location at or above the location of one of a run's calls. -/
def ExtractRun.Touches (run : ExtractRun) (cwd : Location) (loc : Location) : Prop :=
  ∃ effect ∈ run.effects, loc <:+ resolve cwd effect.path

theorem touches_after {run : ExtractRun} {cwd loc : Location} (effect : Effect)
    (touched : run.Touches cwd loc) : (run.after effect).Touches cwd loc := by
  obtain ⟨earlier, mem, above⟩ := touched
  exact ⟨earlier, List.mem_cons_of_mem effect mem, above⟩

/-- `extract` changes the file system only at the locations of its calls and
the directories above them. -/
theorem changedOnly_extractEntries (cwd : Location) (dst : List Char) :
    ∀ (entries : List Next) (fs : FileSystem),
      ChangedOnly fs (extractEntries cwd dst entries fs).fs ((extractEntries cwd dst entries fs).Touches cwd)
  | [], fs => ChangedOnly.refl _ _
  | .eof :: _, fs => ChangedOnly.refl _ _
  | .failed _ :: _, fs => ChangedOnly.refl _ _
  | .noHeader :: rest, fs => changedOnly_extractEntries cwd dst rest fs
  | .entry header data readError :: rest, fs => by
    have own : ∀ (run : ExtractRun) (effect : Effect), effect ∈ run.effects →
        ∀ loc, loc = resolve cwd effect.path → run.Touches cwd loc :=
      fun run effect mem loc same => ⟨effect, mem, same ▸ List.suffix_refl _⟩
    simp only [extractEntries]
    split
    · split
      · exact ChangedOnly.refl _ _
      · rename_i made madeOk
        exact ((FileSystem.changedOnly_mkdirAll fs _ madeOk).trans
          (changedOnly_extractEntries cwd dst rest made)).mono fun loc either => either.elim
            (fun above => ⟨_, List.mem_cons_self, above⟩) (touches_after _)
    · split
      · split
        · exact ChangedOnly.refl _ _
        · rename_i opened openedOk
          have createdThenWritten := (FileSystem.changedOnly_openFile openedOk).trans
            (FileSystem.changedOnly_writeFrom opened (resolve cwd (join dst header.name.toList)) data)
          split
          · exact createdThenWritten.mono fun loc either =>
              own _ _ List.mem_cons_self loc (either.elim id id)
          · exact (createdThenWritten.trans (changedOnly_extractEntries cwd dst rest _)).mono
              fun loc either => either.elim
                (fun here => own _ _ List.mem_cons_self loc (here.elim id id)) (touches_after _)
      · exact changedOnly_extractEntries cwd dst rest fs

theorem changedOnly_extract (archive : Except String (List Next)) (cwd : Location) (dst : List Char)
    (fs : FileSystem) :
    ChangedOnly fs (extract archive cwd dst fs).fs ((extract archive cwd dst fs).Touches cwd) := by
  cases archive with
  | error message => exact ChangedOnly.refl _ _
  | ok entries => exact changedOnly_extractEntries cwd dst entries fs

/-! ## `FetchAndExtract` -/

def mimeTypeTar : String := "application/x-tar"
def mimeTypeGzip : String := "application/gzip"

/-- What `FetchAndExtract` obtains before the extraction: the result of the
download loop, the sniffed content type, and the archive's stream. -/
structure Fetched where
  download : Except String Unit
  contentType : Except String String
  archive : Except String (List Next)

inductive FetchError where
  /-- `invalid build context directory: …`: `os.Stat` failed, or found a file -/
  | invalidContextDir (statError : Option Errno)
  | download (message : String)
  | contentType (message : String)
  /-- `unsupported file type %q` -/
  | unsupported (contentType : String)
  | mkdir (err : PathError)
  | extract (err : ExtractError)
  deriving DecidableEq, Repr

/-- `Extraction`: the archive file and the directory it was unpacked into. -/
structure Extraction where
  archive : List Char
  contentsDir : List Char
  deriving DecidableEq, Repr

/-- `FetchAndExtract(log, ctx, url, wd, timeout)`, with its file-system calls. -/
def fetchAndExtract (fetched : Fetched) (cwd : Location) (wd : List Char) (fs : FileSystem) :
    FileSystem × List Effect × Except FetchError Extraction :=
  match fs.stat (resolve cwd wd) with
  | .error err => (fs, [], .error (.invalidContextDir (some err)))
  | .ok (.file ..) => (fs, [], .error (.invalidContextDir none))
  | .ok .directory =>
    let archive := join wd "archive".toList
    match fetched.download, fetched.contentType with
    | .error message, _ => (fs, [], .error (.download message))
    | .ok (), .error message => (fs, [], .error (.contentType message))
    | .ok (), .ok ct =>
      if ct ≠ mimeTypeGzip ∧ ct ≠ mimeTypeTar then (fs, [], .error (.unsupported ct))
      else
        let dest := join wd "extracted".toList
        match fs.mkdirAll (resolve cwd dest) with
        | .error err => (fs, [.mkdirAll dest], .error (.mkdir err))
        | .ok made =>
          let run := extract fetched.archive cwd dest made
          (run.fs, .mkdirAll dest :: run.effects,
            match run.result with
            | .error err => .error (.extract err)
            | .ok () => .ok ⟨archive, dest⟩)

end Forge.Source.Archive
