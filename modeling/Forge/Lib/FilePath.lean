import Forge.Lib.Strings

/-!
# Lexical path processing

Go's `path/filepath` on a Unix system, over paths as lists of characters.
`Clean` scans the elements between separators and keeps them on a stack:
empty elements and `.` are dropped, and `..` removes the last kept element
unless there is none or it is a `..` itself, in which case a rooted path
drops it and a relative path keeps it. The result is the root followed by
the kept elements, or `.` when a relative path keeps none. The stack is the
`lazybuf` of Go's scan read element by element.

`IsWithin dir path` is confinement to a directory: after cleaning, `path` has
the same root as `dir` and continues its elements with elements none of
which is `..`. Joining a name without `..` elements to a non-empty directory
stays within it (`join_isWithin`).
-/

namespace Forge.Lib.FilePath
open Forge.Lib.Strings

/-- A path element, between two separators. -/
abbrev Element := List Char

/-- The parent element `..`. -/
def dotDot : Element := ['.', '.']

/-- The elements of a path, empty ones included. -/
def elements (p : List Char) : List Element := split '/' p

/-- Whether the path starts at the root. -/
def isRooted (p : List Char) : Bool := p.head? == some '/'

/-- One element of `Clean`'s scan; the kept elements are a stack, the last
one first. -/
def cleanStep (rooted : Bool) (kept : List Element) (e : Element) : List Element :=
  if e = [] ∨ e = ['.'] then kept
  else if e = dotDot then
    match kept with
    | [] => if rooted then [] else [dotDot]
    | last :: earlier => if last = dotDot then dotDot :: kept else earlier
  else e :: kept

/-- The elements `Clean` keeps, in order. -/
def cleanElements (rooted : Bool) (es : List Element) : List Element :=
  (es.foldl (cleanStep rooted) []).reverse

/-- The elements a path names after cleaning. -/
def canonical (p : List Char) : List Element := cleanElements (isRooted p) (elements p)

def clean (p : List Char) : List Char :=
  let body := ['/'].intercalate (canonical p)
  if isRooted p then '/' :: body else if body = [] then ['.'] else body

/-- `filepath.Join(dir, name)`: the arguments from the first non-empty one on,
joined by separators and cleaned; `""` when both are empty. -/
def join (dir name : List Char) : List Char :=
  if dir = [] then (if name = [] then [] else clean name) else clean (dir ++ '/' :: name)

/-- `path` names `dir` or a path below it, both read after cleaning. -/
def IsWithin (dir path : List Char) : Prop :=
  isRooted path = isRooted dir ∧
    ∃ below, canonical path = canonical dir ++ below ∧ dotDot ∉ below

theorem isWithin_iff_extends (dir path : List Char) :
    IsWithin dir path ↔ isRooted path = isRooted dir ∧ canonical dir <+: canonical path ∧
      dotDot ∉ (canonical path).drop (canonical dir).length := by
  constructor
  · rintro ⟨sameRoot, below, extends_, noDotDot⟩
    refine ⟨sameRoot, ⟨below, extends_.symm⟩, ?_⟩
    rwa [extends_, List.drop_left]
  · rintro ⟨sameRoot, isPrefix, noDotDot⟩
    exact ⟨sameRoot, _, (List.prefix_iff_eq_append.mp isPrefix).symm, noDotDot⟩

instance (dir path : List Char) : Decidable (IsWithin dir path) :=
  decidable_of_iff _ (isWithin_iff_extends dir path).symm

example : IsWithin "/mnt/build".toList "/mnt/build/./src//main.go".toList := by decide
example : ¬ IsWithin "/mnt/build".toList "/mnt/build/../etc".toList := by decide
example : ¬ IsWithin "..".toList "../..".toList := by decide

/-! ## The stack of kept elements -/

/-- An element that names an entry: not empty, not `.` or `..`, no separator. -/
def Named (e : Element) : Prop := e ≠ [] ∧ e ≠ ['.'] ∧ e ≠ dotDot ∧ '/' ∉ e

/-- The shape of `Clean`'s stack: named elements over a run of `..`, which a
rooted path never keeps. -/
def KeptStack (rooted : Bool) (kept : List Element) : Prop :=
  ∃ named parents, kept = named ++ List.replicate parents dotDot ∧
    (∀ e ∈ named, Named e) ∧ (rooted = true → parents = 0)

theorem keptStack_nil (rooted : Bool) : KeptStack rooted [] :=
  ⟨[], 0, rfl, by simp, fun _ => rfl⟩

theorem keptStack_cleanStep {rooted : Bool} {kept : List Element} {e : Element}
    (noSep : '/' ∉ e) (shape : KeptStack rooted kept) : KeptStack rooted (cleanStep rooted kept e) := by
  obtain ⟨named, parents, rfl, allNamed, rootedNone⟩ := shape
  unfold cleanStep
  by_cases skipped : e = [] ∨ e = ['.']
  · rw [if_pos skipped]
    exact ⟨named, parents, rfl, allNamed, rootedNone⟩
  rw [if_neg skipped]
  by_cases up : e = dotDot
  · rw [if_pos up]
    cases named with
    | cons last earlier =>
      have lastNamed := allNamed last List.mem_cons_self
      simp only [List.cons_append, if_neg lastNamed.2.2.1]
      exact ⟨earlier, parents, rfl, fun e mem => allNamed e (List.mem_cons_of_mem last mem),
        rootedNone⟩
    | nil =>
      cases parents with
      | zero =>
        cases rooted
        · exact ⟨[], 1, rfl, by simp, by simp⟩
        · exact keptStack_nil true
      | succ parents =>
        have notRooted : rooted = false := by
          cases rooted
          · rfl
          · exact absurd (rootedNone rfl) (Nat.succ_ne_zero parents)
        simp only [List.nil_append, List.replicate_succ, if_pos]
        exact ⟨[], parents + 2, rfl, by simp, by simp [notRooted]⟩
  · rw [if_neg up]
    have named_e : Named e := ⟨fun h => skipped (.inl h), fun h => skipped (.inr h), up, noSep⟩
    refine ⟨e :: named, parents, rfl, ?_, rootedNone⟩
    intro e' mem
    rcases List.mem_cons.mp mem with rfl | mem
    · exact named_e
    · exact allNamed e' mem

theorem keptStack_foldl {rooted : Bool} (es : List Element) (noSep : ∀ e ∈ es, '/' ∉ e) :
    ∀ {kept}, KeptStack rooted kept → KeptStack rooted (es.foldl (cleanStep rooted) kept) := by
  induction es with
  | nil => exact id
  | cons e rest ih =>
    intro kept shape
    exact ih (fun e' mem => noSep e' (List.mem_cons_of_mem e mem))
      (keptStack_cleanStep (noSep e List.mem_cons_self) shape)

theorem keptStack_of_append {rooted : Bool} {top kept : List Element}
    (shape : KeptStack rooted (top ++ kept)) : KeptStack rooted kept := by
  induction top with
  | nil => simpa using shape
  | cons e top ih =>
    apply ih
    obtain ⟨named, parents, eq, allNamed, rootedNone⟩ := shape
    cases named with
    | nil =>
      cases parents with
      | zero => simp at eq
      | succ parents =>
        simp only [List.nil_append, List.replicate_succ, List.cons_append, List.cons.injEq] at eq
        exact ⟨[], parents, by simp [eq.2], by simp, fun rooted => by simpa using rootedNone rooted⟩
    | cons e' named =>
      simp only [List.cons_append, List.cons.injEq] at eq
      exact ⟨named, parents, eq.2, fun e mem => allNamed e (List.mem_cons_of_mem e' mem),
        rootedNone⟩

theorem cleanStep_of_keptStack {rooted : Bool} {kept : List Element} {e : Element}
    (shape : KeptStack rooted (e :: kept)) : cleanStep rooted kept e = e :: kept := by
  obtain ⟨named, parents, eq, allNamed, rootedNone⟩ := shape
  cases named with
  | cons e' named =>
    simp only [List.cons_append, List.cons.injEq] at eq
    obtain ⟨rfl, -⟩ := eq
    obtain ⟨nonEmpty, notDot, notDotDot, -⟩ := allNamed e List.mem_cons_self
    simp [cleanStep, nonEmpty, notDot, notDotDot]
  | nil =>
    cases parents with
    | zero => simp at eq
    | succ parents =>
      simp only [List.nil_append, List.replicate_succ, List.cons.injEq] at eq
      obtain ⟨rfl, rfl⟩ := eq
      have notRooted : rooted = false := by
        cases rooted
        · rfl
        · exact absurd (rootedNone rfl) (Nat.succ_ne_zero parents)
      cases parents <;> simp [cleanStep, dotDot, notRooted, List.replicate_succ]

theorem foldl_cleanStep_of_keptStack {rooted : Bool} (es : List Element) :
    ∀ {kept}, KeptStack rooted (es.reverse ++ kept) →
      es.foldl (cleanStep rooted) kept = es.reverse ++ kept := by
  induction es with
  | nil => simp
  | cons e rest ih =>
    intro kept shape
    have shape' : KeptStack rooted (rest.reverse ++ e :: kept) := by simpa using shape
    rw [List.foldl_cons, cleanStep_of_keptStack (keptStack_of_append shape'), ih shape']
    simp

theorem canonical_keptStack (p : List Char) :
    KeptStack (isRooted p) (canonical p).reverse := by
  have noSep : ∀ e ∈ elements p, '/' ∉ e := not_mem_of_mem_split '/' p
  simpa [canonical, cleanElements] using keptStack_foldl (elements p) noSep (keptStack_nil _)

theorem ne_nil_of_keptStack {rooted : Bool} {kept : List Element} (shape : KeptStack rooted kept) :
    ∀ e ∈ kept, e ≠ [] ∧ '/' ∉ e := by
  obtain ⟨named, parents, rfl, allNamed, -⟩ := shape
  intro e mem
  rcases List.mem_append.mp mem with mem | mem
  · exact ⟨(allNamed e mem).1, (allNamed e mem).2.2.2⟩
  · rw [List.eq_of_mem_replicate mem]
    exact ⟨by simp [dotDot], by simp [dotDot]⟩

theorem cleanElements_of_keptStack {rooted : Bool} {kept : List Element}
    (shape : KeptStack rooted kept.reverse) : cleanElements rooted kept = kept := by
  rw [cleanElements, foldl_cleanStep_of_keptStack kept (by simpa using shape)]
  simp

theorem intercalate_ne_nil {es : List Element} (nonempty : es ≠ [])
    (parts : ∀ e ∈ es, e ≠ [] ∧ '/' ∉ e) : ['/'].intercalate es ≠ [] := by
  obtain ⟨first, rest, rfl⟩ := List.exists_cons_of_ne_nil nonempty
  obtain ⟨c, cs, rfl⟩ := List.exists_cons_of_ne_nil (parts first List.mem_cons_self).1
  cases rest <;> simp [List.intercalate_cons_cons]

theorem isRooted_intercalate {es : List Element} (nonempty : es ≠ [])
    (parts : ∀ e ∈ es, e ≠ [] ∧ '/' ∉ e) : isRooted (['/'].intercalate es) = false := by
  obtain ⟨first, rest, rfl⟩ := List.exists_cons_of_ne_nil nonempty
  obtain ⟨firstNonempty, firstNoSep⟩ := parts first List.mem_cons_self
  obtain ⟨c, cs, rfl⟩ := List.exists_cons_of_ne_nil firstNonempty
  have notSep : c ≠ '/' := fun same => firstNoSep (same ▸ List.mem_cons_self)
  cases rest <;> simp [isRooted, List.intercalate_cons_cons, notSep]

theorem clean_of_isRooted {p : List Char} (rooted : isRooted p = true) :
    clean p = '/' :: ['/'].intercalate (canonical p) := by
  simp [clean, rooted]

theorem clean_of_canonical_nil {p : List Char} (notRooted : isRooted p = false)
    (empty : canonical p = []) : clean p = ['.'] := by
  simp [clean, notRooted, empty]

theorem clean_of_canonical_ne_nil {p : List Char} (notRooted : isRooted p = false)
    (nonempty : canonical p ≠ []) : clean p = ['/'].intercalate (canonical p) := by
  have parts : ∀ e ∈ canonical p, e ≠ [] ∧ '/' ∉ e := fun e mem =>
    ne_nil_of_keptStack (canonical_keptStack p) e (List.mem_reverse.mpr mem)
  simp [clean, notRooted, intercalate_ne_nil nonempty parts]

theorem canonical_slash_cons (body : List Char) :
    canonical ('/' :: body) = cleanElements true (split '/' body) := by
  have rooted : isRooted ('/' :: body) = true := by simp [isRooted]
  rw [canonical, rooted, elements, split, if_pos rfl, cleanElements, List.foldl_cons,
    show cleanStep true [] [] = [] by simp [cleanStep], ← cleanElements]

theorem isRooted_clean (p : List Char) : isRooted (clean p) = isRooted p := by
  cases rooted : isRooted p with
  | true => simp [clean_of_isRooted rooted, isRooted]
  | false =>
    by_cases empty : canonical p = []
    · rw [clean_of_canonical_nil rooted empty]
      rfl
    · rw [clean_of_canonical_ne_nil rooted empty]
      exact isRooted_intercalate empty fun e mem =>
        ne_nil_of_keptStack (canonical_keptStack p) e (List.mem_reverse.mpr mem)

theorem canonical_clean (p : List Char) : canonical (clean p) = canonical p := by
  have shape := canonical_keptStack p
  have parts : ∀ e ∈ canonical p, e ≠ [] ∧ '/' ∉ e := fun e mem =>
    ne_nil_of_keptStack shape e (List.mem_reverse.mpr mem)
  cases rooted : isRooted p with
  | true =>
    rw [clean_of_isRooted rooted, canonical_slash_cons]
    by_cases empty : canonical p = []
    · rw [empty]
      rfl
    · rw [split_intercalate '/' _ empty fun e mem => (parts e mem).2]
      rw [rooted] at shape
      exact cleanElements_of_keptStack shape
  | false =>
    by_cases empty : canonical p = []
    · rw [clean_of_canonical_nil rooted empty, empty]
      rfl
    · rw [clean_of_canonical_ne_nil rooted empty, canonical, isRooted_intercalate empty parts,
        elements, split_intercalate '/' _ empty fun e mem => (parts e mem).2]
      rw [rooted] at shape
      exact cleanElements_of_keptStack shape

/-! ## Joining a name to a directory -/

/-- The elements that name entries: neither empty nor `.`. -/
def entryElements (es : List Element) : List Element :=
  es.filter fun e => e ≠ [] && e ≠ ['.']

theorem foldl_cleanStep_of_not_dotDot {rooted : Bool} (es : List Element) (noDotDot : dotDot ∉ es) :
    ∀ kept, es.foldl (cleanStep rooted) kept = (entryElements es).reverse ++ kept := by
  induction es with
  | nil => simp [entryElements]
  | cons e rest ih =>
    intro kept
    have restNoDotDot : dotDot ∉ rest := fun mem => noDotDot (List.mem_cons_of_mem e mem)
    have notDotDot : e ≠ dotDot := fun same => noDotDot (same ▸ List.mem_cons_self)
    rw [List.foldl_cons]
    by_cases skipped : e = [] ∨ e = ['.']
    · simp only [cleanStep, if_pos skipped, ih restNoDotDot]
      rcases skipped with rfl | rfl <;> simp [entryElements]
    · simp only [cleanStep, if_neg skipped, if_neg notDotDot, ih restNoDotDot]
      have kept : (e ≠ [] && e ≠ ['.']) = true := by
        simp only [not_or] at skipped
        simp [skipped.1, skipped.2]
      rw [show entryElements (e :: rest) = e :: entryElements rest from
        List.filter_cons_of_pos kept]
      simp [entryElements]

theorem elements_append_cons (dir name : List Char) :
    elements (dir ++ '/' :: name) = elements dir ++ elements name :=
  split_append_cons '/' dir name

theorem isRooted_append {dir : List Char} (nonempty : dir ≠ []) (rest : List Char) :
    isRooted (dir ++ rest) = isRooted dir := by
  obtain ⟨c, cs, rfl⟩ := List.exists_cons_of_ne_nil nonempty
  simp [isRooted]

theorem isRooted_join {dir : List Char} (nonempty : dir ≠ []) (name : List Char) :
    isRooted (join dir name) = isRooted dir := by
  rw [join, if_neg nonempty, isRooted_clean, isRooted_append nonempty]

/-- Joining a name without `..` extends the directory's elements by the
name's entry elements. -/
theorem canonical_join {dir name : List Char} (nonempty : dir ≠ [])
    (noDotDot : dotDot ∉ elements name) :
    canonical (join dir name) = canonical dir ++ entryElements (elements name) := by
  rw [join, if_neg nonempty, canonical_clean, canonical, isRooted_append nonempty,
    elements_append_cons, cleanElements, List.foldl_append,
    foldl_cleanStep_of_not_dotDot _ noDotDot]
  simp [canonical, cleanElements]

/-- A name without `..` joined to a non-empty directory stays within it. -/
theorem join_isWithin {dir name : List Char} (nonempty : dir ≠ [])
    (noDotDot : dotDot ∉ elements name) : IsWithin dir (join dir name) := by
  refine ⟨isRooted_join nonempty name, entryElements (elements name),
    canonical_join nonempty noDotDot, ?_⟩
  intro mem
  exact noDotDot (List.mem_filter.mp mem).1

example : join "/mnt/build".toList "../escape".toList = "/mnt/escape".toList := by decide

end Forge.Lib.FilePath
