import Forge.Source.Archive

/-!
# Where extraction writes

`extract` checks no entry name: every directory it makes and every file it
opens is at `filepath.Join(dst, header.Name)` for an entry of the stream, and
`Join` resolves a leading `..` against `dst`. So a call is within `dst`
(`dst` non-empty) exactly for the entries whose names have no `..` element
(`extract_within_destination`); an archive with a regular file `../escape`
unpacked into `/mnt/build/extracted` writes `/mnt/build/escape`
(`extraction_leaves_destination`).

Whatever the names, `extract` leaves every other location as it was: it
changes only the joins of `dst` with the entries' names and the directories
above them (`extract_changes_only_entry_paths`).
-/

namespace Forge.Guarantees.ArchiveConfinement
open Forge.Lib.FilePath Forge.Lib.Files Forge.Source.Archive

/-- Every `MkdirAll` and `OpenFile` of `extract` is on a path within `dst`. -/
def ExtractionConfined : Prop :=
  ∀ (archive : Except String (List Next)) (cwd : Location) (dst : List Char) (fs : FileSystem),
    ∀ effect ∈ (extract archive cwd dst fs).effects, IsWithin dst effect.path

/-- The destination `FetchAndExtract` uses in the build job. -/
def contentsDir : List Char := "/mnt/build/extracted".toList

def escapingArchive : List Next :=
  [.entry ⟨".", typeDir, 493⟩ [] none, .entry ⟨"../escape", typeReg, 420⟩ [104, 105] none]

/-- Unpacked on a file system with only the root, the archive makes `dst`,
then creates and writes `/mnt/build/escape`, and succeeds. -/
theorem escaping_archive_writes_outside :
    (extract (.ok escapingArchive) [] contentsDir FileSystem.root).effects =
      [.mkdirAll contentsDir, .openFile "/mnt/build/escape".toList] ∧
    (extract (.ok escapingArchive) [] contentsDir FileSystem.root).result = .ok () ∧
    (extract (.ok escapingArchive) [] contentsDir FileSystem.root).fs.entry
      (["escape", "build", "mnt"].map String.toList) = some (.file [104, 105] 420) := by
  decide +kernel

theorem extraction_leaves_destination : ¬ ExtractionConfined := by
  intro confined
  have escaped := confined (.ok escapingArchive) [] contentsDir FileSystem.root
    (.openFile "/mnt/build/escape".toList)
    (by rw [escaping_archive_writes_outside.1]; simp)
  exact absurd escaped (by decide)

/-- Every call `extract` makes is at the join of `dst` with the name of one
of the entries, and within `dst` when `dst` is not empty and that name has no
`..` element. -/
theorem extract_within_destination (entries : List Next) (cwd : Location) (dst : List Char)
    (fs : FileSystem) (nonempty : dst ≠ []) :
    ∀ effect ∈ (extract (.ok entries) cwd dst fs).effects,
      ∃ name ∈ entryNames entries, effect.path = join dst name.toList ∧
        (dotDot ∉ elements name.toList → IsWithin dst effect.path) := by
  intro effect mem
  obtain ⟨name, named, path⟩ := mem_effects_extractEntries cwd dst entries fs effect mem
  exact ⟨name, named, path, fun noDotDot => path ▸ join_isWithin nonempty noDotDot⟩

def sourceArchive : List Next :=
  [.entry ⟨"src", typeDir, 493⟩ [] none, .entry ⟨"src/main.go", typeReg, 420⟩ [112] none,
    .entry ⟨"Dockerfile", typeReg, 420⟩ [70] none]

theorem source_archive_within :
    contentsDir ≠ [] ∧
    ∀ effect ∈ (extract (.ok sourceArchive) [] contentsDir FileSystem.root).effects,
      ∃ name ∈ entryNames sourceArchive, effect.path = join contentsDir name.toList ∧
        (dotDot ∉ elements name.toList → IsWithin contentsDir effect.path) :=
  ⟨by decide, extract_within_destination sourceArchive [] contentsDir FileSystem.root (by decide)⟩

/-! ## What extraction changes -/

/-- `extract` changes the file system only at `filepath.Join(dst, name)`
for the names of the archive's entries, resolved from the working
directory, and at the directories above them. -/
theorem extract_changes_only_entry_paths (archive : Except String (List Next)) (cwd : Location)
    (dst : List Char) (fs : FileSystem) :
    ∀ loc, (extract archive cwd dst fs).fs.entry loc ≠ fs.entry loc →
      ∃ entries, archive = .ok entries ∧
        ∃ name ∈ entryNames entries, loc <:+ resolve cwd (join dst name.toList) := by
  intro loc changed
  obtain ⟨effect, made, above⟩ := changedOnly_extract archive cwd dst fs loc changed
  obtain ⟨entries, isArchive, name, named, path⟩ := mem_effects_extract archive cwd dst fs effect made
  exact ⟨entries, isArchive, name, named, path ▸ above⟩

/-- The location the escaping archive writes is one it changes. -/
theorem escape_entry_changed :
    (extract (.ok escapingArchive) [] contentsDir FileSystem.root).fs.entry
        (["escape", "build", "mnt"].map String.toList) ≠
      FileSystem.root.entry (["escape", "build", "mnt"].map String.toList) ∧
    ∃ entries, (.ok escapingArchive : Except String (List Next)) = .ok entries ∧
      ∃ name ∈ entryNames entries,
        (["escape", "build", "mnt"].map String.toList) <:+ resolve [] (join contentsDir name.toList) := by
  have changed : (extract (.ok escapingArchive) [] contentsDir FileSystem.root).fs.entry
      (["escape", "build", "mnt"].map String.toList) ≠
        FileSystem.root.entry (["escape", "build", "mnt"].map String.toList) := by
    rw [escaping_archive_writes_outside.2.2]
    decide
  exact ⟨changed, extract_changes_only_entry_paths _ _ _ _ _ changed⟩

end Forge.Guarantees.ArchiveConfinement
