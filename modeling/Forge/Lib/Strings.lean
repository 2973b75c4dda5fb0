import Mathlib.Data.List.Basic

/-!
# Go `strings` functions on character lists

The functions of Go's `strings` package that the modelled code calls, on the
characters (or bytes) of a string, each following its documented behaviour for
the one-character separators and cutsets the code passes:

* `splitN2 sep s` is `strings.SplitN(s, sep, 2)`: split at the first `sep`;
* `split sep s` is `strings.Split(s, sep)`: split at every `sep`;
* `trimSpace` is `strings.TrimSpace`, with `unicode.IsSpace`;
* `trimChar c s` is `strings.Trim(s, string(c))`;
* `equalFoldAscii p s` is `strings.EqualFold(p, s)` for an ASCII `p`;
* `trimSuffix s suffix` is `strings.TrimSuffix`, and `quote` is `%q`.
-/

namespace Forge.Lib.Strings

variable {α : Type} [DecidableEq α]

/-- `strings.SplitN(s, sep, 2)`: one part when `sep` does not occur, else the
parts before and after its first occurrence. -/
def splitN2 (sep : α) : List α → List (List α)
  | [] => [[]]
  | c :: rest =>
    if c = sep then [[], rest]
    else match splitN2 sep rest with
      | first :: others => (c :: first) :: others
      | [] => [[c]]

/-- `strings.Split(s, sep)`: the parts between successive occurrences of `sep`. -/
def split (sep : α) : List α → List (List α)
  | [] => [[]]
  | c :: rest =>
    if c = sep then [] :: split sep rest
    else match split sep rest with
      | first :: others => (c :: first) :: others
      | [] => [[c]]

theorem split_ne_nil (sep : α) : ∀ s : List α, split sep s ≠ []
  | [] => by simp [split]
  | c :: rest => by
    unfold split
    by_cases isSep : c = sep
    · simp [isSep]
    · rw [if_neg isSep]
      cases split sep rest <;> simp

theorem not_mem_of_mem_split (sep : α) :
    ∀ s : List α, ∀ part ∈ split sep s, sep ∉ part
  | [] => fun part mem => by simp_all [split]
  | c :: rest => fun part mem => by
    have restParts := not_mem_of_mem_split sep rest
    unfold split at mem
    by_cases isSep : c = sep
    · rw [if_pos isSep] at mem
      rcases List.mem_cons.mp mem with rfl | mem
      · simp
      · exact restParts part mem
    · rw [if_neg isSep] at mem
      revert mem restParts
      cases split sep rest with
      | nil =>
        intro _ mem
        simp only [List.mem_singleton] at mem
        simp [mem, Ne.symm isSep]
      | cons first others =>
        intro restParts mem
        dsimp only at mem
        rcases List.mem_cons.mp mem with rfl | mem
        · simp [Ne.symm isSep, restParts first List.mem_cons_self]
        · exact restParts part (List.mem_cons_of_mem first mem)

theorem split_append_cons (sep : α) (a b : List α) :
    split sep (a ++ sep :: b) = split sep a ++ split sep b := by
  induction a with
  | nil => simp [split]
  | cons c rest ih =>
    by_cases isSep : c = sep
    · simp [split, isSep, ih]
    · obtain ⟨first, others, parts⟩ : ∃ first others, split sep rest = first :: others := by
        cases h : split sep rest with
        | nil => exact absurd h (split_ne_nil sep rest)
        | cons first others => exact ⟨first, others, rfl⟩
      simp only [List.cons_append, split, if_neg isSep, ih, parts]

theorem split_of_not_mem (sep : α) : ∀ s : List α, sep ∉ s → split sep s = [s]
  | [] => fun _ => by simp [split]
  | c :: rest => fun absent => by
    have isNotSep : c ≠ sep := fun same => absent (same ▸ List.mem_cons_self)
    have restSplit := split_of_not_mem sep rest fun mem => absent (List.mem_cons_of_mem c mem)
    simp only [split, if_neg isNotSep, restSplit]

theorem split_intercalate (sep : α) :
    ∀ parts : List (List α), parts ≠ [] → (∀ part ∈ parts, sep ∉ part) →
      split sep ([sep].intercalate parts) = parts
  | [], nonempty, _ => absurd rfl nonempty
  | [part], _, noSep => by
    rw [List.intercalate_singleton, split_of_not_mem sep part (noSep part List.mem_cons_self)]
  | part :: next :: rest, _, noSep => by
    rw [List.intercalate_cons_cons, List.append_assoc, List.singleton_append,
      split_append_cons, split_of_not_mem sep part (noSep part List.mem_cons_self),
      split_intercalate sep (next :: rest) (List.cons_ne_nil _ _)
        fun other mem => noSep other (List.mem_cons_of_mem part mem)]
    rfl

theorem splitN2_of_not_mem (sep : α) : ∀ s : List α, sep ∉ s → splitN2 sep s = [s]
  | [] => fun _ => rfl
  | c :: rest => fun absent => by
    have isNotSep : c ≠ sep := fun same => absent (same ▸ List.mem_cons_self)
    have restSplit := splitN2_of_not_mem sep rest fun mem => absent (List.mem_cons_of_mem c mem)
    simp only [splitN2, if_neg isNotSep, restSplit]

theorem splitN2_append_cons (sep : α) (b : List α) :
    ∀ a : List α, sep ∉ a → splitN2 sep (a ++ sep :: b) = [a, b]
  | [] => fun _ => by simp [splitN2]
  | c :: rest => fun absent => by
    have isNotSep : c ≠ sep := fun same => absent (same ▸ List.mem_cons_self)
    have restSplit := splitN2_append_cons sep b rest fun mem => absent (List.mem_cons_of_mem c mem)
    simp only [List.cons_append, splitN2, if_neg isNotSep, restSplit]

theorem splitN2_of_mem (sep : α) : ∀ s : List α, sep ∈ s → ∃ a b, splitN2 sep s = [a, b]
  | [] => fun mem => absurd mem List.not_mem_nil
  | c :: rest => fun mem => by
    by_cases isSep : c = sep
    · exact ⟨[], rest, by simp [splitN2, isSep]⟩
    · have inRest : sep ∈ rest := (List.mem_cons.mp mem).resolve_left (Ne.symm isSep)
      obtain ⟨a, b, parts⟩ := splitN2_of_mem sep rest inRest
      exact ⟨c :: a, b, by simp only [splitN2, if_neg isSep, parts]⟩

theorem splitN2_ne_nil (sep : α) : ∀ s : List α, splitN2 sep s ≠ []
  | [] => by simp [splitN2]
  | c :: rest => by
    unfold splitN2
    by_cases isSep : c = sep
    · simp [isSep]
    · rw [if_neg isSep]
      cases splitN2 sep rest <;> simp

theorem splitN2_append_of_not_mem (sep : α) (s : List α) :
    ∀ a : List α, sep ∉ a → splitN2 sep (a ++ s) = (splitN2 sep s).modifyHead (a ++ ·)
  | [] => fun _ => by cases parts : splitN2 sep s <;> simp [parts]
  | c :: rest => fun absent => by
    have isNotSep : c ≠ sep := fun same => absent (same ▸ List.mem_cons_self)
    have restSplit := splitN2_append_of_not_mem sep s rest fun mem => absent (List.mem_cons_of_mem c mem)
    obtain ⟨first, others, parts⟩ : ∃ first others, splitN2 sep s = first :: others := by
      cases h : splitN2 sep s with
      | nil => exact absurd h (splitN2_ne_nil sep s)
      | cons first others => exact ⟨first, others, rfl⟩
    rw [parts] at restSplit
    simp only [List.cons_append, splitN2, if_neg isNotSep, restSplit, parts, List.modifyHead_cons]

def trimSuffix (s suffix : List α) : List α :=
  if suffix.isSuffixOf s then s.take (s.length - suffix.length) else s

/-- `strconv.Quote`, the `%q` verb, for printable text: in double quotes, with
`"` and the backslash escaped. -/
def quote (s : String) : String :=
  "\"" ++ String.join (s.toList.map fun c =>
    if c = '"' ∨ c = '\\' then "\\" ++ c.toString else c.toString) ++ "\""

/-- `unicode.IsSpace`: the Latin-1 spaces and the other `White_Space` code points. -/
def isSpace (c : Char) : Bool :=
  let n := c.toNat
  n = 0x09 || n = 0x0A || n = 0x0B || n = 0x0C || n = 0x0D || n = 0x20 || n = 0x85 ||
    n = 0xA0 || n = 0x1680 || (0x2000 ≤ n && n ≤ 0x200A) || n = 0x2028 || n = 0x2029 ||
    n = 0x202F || n = 0x205F || n = 0x3000

/-- `strings.TrimSpace`: drop leading and trailing white space. -/
def trimSpace (s : List Char) : List Char :=
  ((s.dropWhile isSpace).reverse.dropWhile isSpace).reverse

/-- `strings.Trim(s, cutset)` for a one-character cutset. -/
def trimChar (cut : Char) (s : List Char) : List Char :=
  ((s.dropWhile (· = cut)).reverse.dropWhile (· = cut)).reverse

omit [DecidableEq α] in
theorem dropWhile_reverse_dropWhile {p : α → Bool} {s : List α}
    (first : ∀ c ∈ s.head?, p c = false) (last : ∀ c ∈ s.getLast?, p c = false) :
    ((s.dropWhile p).reverse.dropWhile p).reverse = s := by
  cases s with
  | nil => rfl
  | cons c rest =>
    rw [List.dropWhile_cons_of_neg (by simpa using first c rfl)]
    obtain ⟨init, d, split⟩ := List.exists_cons_of_ne_nil (List.reverse_ne_nil_iff.mpr (List.cons_ne_nil c rest))
    have lastIs : (c :: rest).getLast? = some init := by
      rw [List.getLast?_eq_head?_reverse, split, List.head?_cons]
    rw [split, List.dropWhile_cons_of_neg (by simpa using last init lastIs), ← split, List.reverse_reverse]

theorem trimSpace_of_ends {s : List Char} (first : ∀ c ∈ s.head?, isSpace c = false)
    (last : ∀ c ∈ s.getLast?, isSpace c = false) : trimSpace s = s :=
  dropWhile_reverse_dropWhile first last

theorem trimChar_of_not_mem (cut : Char) {s : List Char} (absent : cut ∉ s) : trimChar cut s = s := by
  apply dropWhile_reverse_dropWhile
  · intro c mem
    exact decide_eq_false fun same => absent (same ▸ List.mem_of_mem_head? mem)
  · intro c mem
    exact decide_eq_false fun same => absent (same ▸ List.mem_of_getLast? mem)

theorem trimChar_quoted (cut : Char) {s : List Char} (absent : cut ∉ s) :
    trimChar cut (cut :: s ++ [cut]) = s := by
  rw [trimChar, List.cons_append, List.dropWhile_cons_of_pos (by simp)]
  cases s with
  | nil => simp
  | cons d rest =>
    have notCut : d ≠ cut := fun same => absent (same ▸ List.mem_cons_self)
    have kept := trimChar_of_not_mem cut absent
    rw [trimChar, List.dropWhile_cons_of_neg (by simpa using notCut)] at kept
    rw [List.cons_append, List.dropWhile_cons_of_neg (by simpa using notCut), ← List.cons_append,
      List.reverse_append, List.reverse_singleton, List.singleton_append,
      List.dropWhile_cons_of_pos (by simp), kept]

/-- Characters equal to the ASCII character `p` under Unicode simple case
folding: its two ASCII cases, and the Kelvin sign and long s for `k` and `s`. -/
def foldsTo (p c : Char) : Bool :=
  c = p || c = p.toLower || c = p.toUpper ||
    (p.toLower = 'k' && c.toNat = 0x212A) || (p.toLower = 's' && c.toNat = 0x17F)

/-- `strings.EqualFold(p, s)` when `p` is ASCII: same length, and each
character of `s` folds to the character of `p` at its place. -/
def equalFoldAscii : List Char → List Char → Bool
  | [], [] => true
  | p :: ps, c :: cs => foldsTo p c && equalFoldAscii ps cs
  | _, _ => false

end Forge.Lib.Strings
