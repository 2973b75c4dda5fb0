import Forge.Source.Archive

/-!
# What extraction leaves in the destination

`extract` opens a regular file with `O_CREATE|O_RDWR` and no `O_TRUNC`, and
copies the entry's body over it from its start. A later entry with the name
of an earlier one therefore overwrites only as many bytes as it has: the file
keeps the tail of the longer earlier body. Nor does `extract` create the
parent of a regular file, so a file listed before (or without) its directory
fails the extraction with `ENOENT`. Extracting an archive is thus not a
faithful reproduction of its last entries.
-/

namespace Forge.Guarantees.ArchiveContents
open Forge.Lib.FilePath Forge.Lib.Files Forge.Source.Archive

/-- An entry of the kind an ordinary archive holds: a directory or a regular
file with a relative name free of `..`, read to its end. -/
def PlainEntry : Next → Prop
  | .entry header _ readError =>
    readError = none ∧ (header.typeflag = typeDir ∨ header.typeflag = typeReg) ∧
      isRooted header.name.toList = false ∧ dotDot ∉ elements header.name.toList
  | _ => False

/-- The body of the last regular-file entry named `name`. -/
def lastFileData (entries : List Next) (name : String) : Option (List UInt8) :=
  (entries.filterMap fun
    | .entry header data _ => if header.typeflag = typeReg ∧ header.name = name then some data else none
    | _ => none).getLast?

/-- Extraction reproduces the archive: into an empty directory, a stream of
plain entries extracts without error, leaves a directory for every directory
entry and, at every regular-file name, a file holding the body of the last
entry of that name, and produces no other file. -/
def ReproducesArchive : Prop :=
  ∀ (entries : List Next) (cwd : Location) (dst : List Char) (fs : FileSystem),
    (∀ next ∈ entries, PlainEntry next) →
    fs.entry (resolve cwd dst) = some .directory → (∀ e, fs.entry (e :: resolve cwd dst) = none) →
    (extract (.ok entries) cwd dst fs).result = .ok () ∧
      (∀ header data, Next.entry header data none ∈ entries → header.typeflag = typeDir →
        (extract (.ok entries) cwd dst fs).fs.entry (resolve cwd (join dst header.name.toList)) =
          some .directory) ∧
      (∀ name data, lastFileData entries name = some data → ∃ mode,
        (extract (.ok entries) cwd dst fs).fs.entry (resolve cwd (join dst name.toList)) =
          some (.file data mode)) ∧
      ∀ loc data mode, (extract (.ok entries) cwd dst fs).fs.entry loc = some (.file data mode) →
        fs.entry loc = some (.file data mode) ∨
          ∃ name, lastFileData entries name ≠ none ∧ loc = resolve cwd (join dst name.toList)

def destination : FileSystem :=
  FileSystem.root.put "extracted".toList [] .directory FileSystem.root.root_directory
    (by simp [FileSystem.root])

def rewritten : List Next :=
  [.entry ⟨"f", typeReg, 420⟩ [1, 2, 3] none, .entry ⟨"f", typeReg, 420⟩ [9] none]

theorem extract_keeps_stale_tail : ¬ ReproducesArchive := by
  intro reproduces
  have plain : ∀ next ∈ rewritten, PlainEntry next := by
    simp [rewritten, PlainEntry, typeReg, isRooted, elements, dotDot, Forge.Lib.Strings.split]
  have empty : ∀ e, destination.entry (e :: resolve [] "/extracted".toList) = none := by
    intro e
    have resolved : resolve [] "/extracted".toList = ["extracted".toList] := by decide
    rw [resolved]
    simp [destination, FileSystem.root]
  obtain ⟨-, -, files, -⟩ := reproduces rewritten [] "/extracted".toList destination plain (by decide) empty
  obtain ⟨mode, last⟩ := files "f" [9] (by decide)
  have stale : (extract (.ok rewritten) [] "/extracted".toList destination).fs.entry
      (resolve [] (join "/extracted".toList "f".toList)) = some (.file [9, 2, 3] 420) := by
    decide
  rw [stale] at last
  simp at last

/-! ## What does hold: bodies are written over each other in place -/

/-- The bodies of the regular-file entries the loop reaches whose target is
`loc`, in order. -/
def regularData (cwd : Location) (dst : List Char) (loc : Location) : List Next → List (List UInt8)
  | [] => []
  | .eof :: _ => []
  | .failed _ :: _ => []
  | .noHeader :: rest => regularData cwd dst loc rest
  | .entry header data _ :: rest =>
    if header.typeflag = typeReg ∧ resolve cwd (join dst header.name.toList) = loc then
      data :: regularData cwd dst loc rest
    else regularData cwd dst loc rest

/-- The bytes of the file at a location; none where there is no file. -/
def fileContent (fs : FileSystem) (loc : Location) : List UInt8 :=
  match fs.entry loc with
  | some (.file data _) => data
  | _ => []

theorem fileContent_eq_nil {fs : FileSystem} {loc : Location}
    (noFile : ∀ data mode, fs.entry loc ≠ some (.file data mode)) : fileContent fs loc = [] := by
  unfold fileContent
  split
  · rename_i data mode present
    exact absurd present (noFile data mode)
  · rfl

theorem fileContent_of_files {fs fs' : FileSystem} {loc : Location}
    (files : ∀ data mode, fs'.entry loc = some (.file data mode) ↔ fs.entry loc = some (.file data mode)) :
    fileContent fs' loc = fileContent fs loc := by
  by_cases fileThere : ∃ data mode, fs.entry loc = some (.file data mode)
  · obtain ⟨data, mode, present⟩ := fileThere
    simp only [fileContent, present, (files data mode).mpr present]
  · simp only [not_exists] at fileThere
    rw [fileContent_eq_nil fileThere,
      fileContent_eq_nil fun data mode present' => fileThere data mode ((files data mode).mp present')]

theorem file_after_openFile_writeFrom {fs opened : FileSystem} {loc : Location} {mode : Nat}
    (openedOk : fs.openFile loc mode = .ok opened) (data : List UInt8) :
    ∃ mode', (opened.writeFrom loc data).entry loc = some (.file (overwrite (fileContent fs loc) data) mode') := by
  rcases FileSystem.openFile_cases openedOk with ⟨absent, created⟩ | ⟨⟨old, mode', present⟩, rfl⟩
  · exact ⟨mode, by simpa [fileContent, absent] using FileSystem.writeFrom_file created data⟩
  · exact ⟨mode', by simpa [fileContent, present] using FileSystem.writeFrom_file present data⟩

/-- Over a successful run of the loop, the file at a location that held a
file or that regular entries target holds their bodies written over each
other, in order, from the file's first content. -/
theorem fileAt_extractEntries (cwd : Location) (dst : List Char) (loc : Location) :
    ∀ (entries : List Next) (fs : FileSystem), (extractEntries cwd dst entries fs).result = .ok () →
      (regularData cwd dst loc entries ≠ [] ∨ ∃ data mode, fs.entry loc = some (.file data mode)) →
      ∃ mode, (extractEntries cwd dst entries fs).fs.entry loc =
        some (.file ((regularData cwd dst loc entries).foldl overwrite (fileContent fs loc)) mode)
  | [], fs, _, written | .eof :: _, fs, _, written => by
    obtain ⟨data, mode, present⟩ := written.resolve_left (by simp [regularData])
    exact ⟨mode, by simp [extractEntries, regularData, fileContent, present]⟩
  | .failed _ :: _, fs, succeeded, _ => by simp [extractEntries] at succeeded
  | .noHeader :: rest, fs, succeeded, written => by
    simpa [extractEntries, regularData] using
      fileAt_extractEntries cwd dst loc rest fs succeeded (by simpa [regularData] using written)
  | .entry header data readError :: rest, fs, succeeded, written => by
    simp only [extractEntries] at succeeded ⊢
    by_cases isDir : header.typeflag = typeDir
    · -- a directory entry: `MkdirAll` leaves every file as it was
      have skipped : regularData cwd dst loc (.entry header data readError :: rest) =
          regularData cwd dst loc rest := by
        simp [regularData, isDir, typeDir, typeReg]
      rw [skipped] at written ⊢
      cases madeOk : fs.mkdirAll (resolve cwd (join dst header.name.toList)) with
      | error err => simp [isDir, madeOk] at succeeded
      | ok made =>
        simp only [isDir, madeOk, if_true, ExtractRun.after_fs, ExtractRun.after_result] at succeeded ⊢
        have files := FileSystem.mkdirAll_file_iff fs _ madeOk loc
        rw [← fileContent_of_files files]
        refine fileAt_extractEntries cwd dst loc rest made succeeded (written.imp id ?_)
        rintro ⟨data, mode, present⟩
        exact ⟨data, mode, (files data mode).mpr present⟩
    by_cases isReg : header.typeflag = typeReg
    · -- a regular file: opened without truncation, then written from its start
      rw [if_neg isDir, if_pos isReg] at succeeded ⊢
      cases openedOk : fs.openFile (resolve cwd (join dst header.name.toList)) header.mode with
      | error err => simp [openedOk] at succeeded
      | ok opened =>
        cases readError with
        | some message => simp [openedOk] at succeeded
        | none =>
          simp only [openedOk, ExtractRun.after_fs, ExtractRun.after_result] at succeeded ⊢
          by_cases here : resolve cwd (join dst header.name.toList) = loc
          · have written' : regularData cwd dst loc (.entry header data none :: rest) =
                data :: regularData cwd dst loc rest := by
              simp [regularData, isReg, here]
            subst here
            rw [written', List.foldl_cons]
            obtain ⟨mode, writtenAt⟩ := file_after_openFile_writeFrom openedOk data
            have writtenContent : fileContent (opened.writeFrom (resolve cwd (join dst header.name.toList)) data)
                (resolve cwd (join dst header.name.toList)) =
                  overwrite (fileContent fs (resolve cwd (join dst header.name.toList))) data := by
              simp [fileContent, writtenAt]
            rw [← writtenContent]
            exact fileAt_extractEntries cwd dst _ rest _ succeeded (.inr ⟨_, _, writtenAt⟩)
          · -- another location: opening and writing leave this one as it was
            have skipped : regularData cwd dst loc (.entry header data none :: rest) =
                regularData cwd dst loc rest := by
              simp [regularData, here]
            have same : (opened.writeFrom (resolve cwd (join dst header.name.toList)) data).entry loc =
                fs.entry loc :=
              ((FileSystem.changedOnly_openFile openedOk).trans
                (FileSystem.changedOnly_writeFrom opened _ data)).entry_eq
                  (by rintro (same | same) <;> exact here same.symm)
            rw [skipped] at written ⊢
            rw [← fileContent_of_files fun data mode => by rw [same]]
            refine fileAt_extractEntries cwd dst loc rest _ succeeded (written.imp id ?_)
            rintro ⟨data, mode, present⟩
            exact ⟨data, mode, same ▸ present⟩
    · -- any other entry is skipped
      have skipped : regularData cwd dst loc (.entry header data readError :: rest) =
          regularData cwd dst loc rest := by
        simp [regularData, isReg]
      rw [if_neg isDir, if_neg isReg] at succeeded ⊢
      rw [skipped] at written ⊢
      exact fileAt_extractEntries cwd dst loc rest fs succeeded written

/-- A successful extraction writes the bodies of the regular entries of each
location over each other, from the start of the file, beginning with what the
file held. -/
theorem extract_overwrites_in_place (archive : Except String (List Next)) (cwd : Location)
    (dst : List Char) (fs : FileSystem) (succeeded : (extract archive cwd dst fs).result = .ok ()) :
    ∃ entries, archive = .ok entries ∧ ∀ loc,
      (regularData cwd dst loc entries ≠ [] ∨ ∃ data mode, fs.entry loc = some (.file data mode)) →
      ∃ mode, (extract archive cwd dst fs).fs.entry loc =
        some (.file ((regularData cwd dst loc entries).foldl overwrite (fileContent fs loc)) mode) := by
  cases archive with
  | error message => simp [extract] at succeeded
  | ok entries =>
    exact ⟨entries, rfl, fun loc written => fileAt_extractEntries cwd dst loc entries fs succeeded written⟩

theorem rewritten_file_keeps_tail :
    (extract (.ok rewritten) [] "/extracted".toList destination).result = .ok () ∧
      ∃ mode, (extract (.ok rewritten) [] "/extracted".toList destination).fs.entry
        (resolve [] (join "/extracted".toList "f".toList)) = some (.file [9, 2, 3] mode) := by
  have succeeded : (extract (.ok rewritten) [] "/extracted".toList destination).result = .ok () := by
    decide
  obtain ⟨entries, listed, files⟩ := extract_overwrites_in_place (.ok rewritten) [] "/extracted".toList
    destination succeeded
  cases listed
  obtain ⟨mode, file⟩ := files (resolve [] (join "/extracted".toList "f".toList)) (.inl (by decide))
  have content : (regularData [] "/extracted".toList (resolve [] (join "/extracted".toList "f".toList))
      rewritten).foldl overwrite (fileContent destination (resolve [] (join "/extracted".toList "f".toList))) =
        [9, 2, 3] := by
    decide
  exact ⟨succeeded, mode, content ▸ file⟩

end Forge.Guarantees.ArchiveContents
