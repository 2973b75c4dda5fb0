import Mathlib.Data.List.Basic

/-!
# POSIX shell token recognition and simple commands

Token recognition of the POSIX shell command language (XCU 2.3) as a machine
over the characters of a command string, and the argument vector of a string
that is one simple command.

Each word is kept after quote removal as its characters paired with whether
they were quoted. Inside double quotes `$` and backquote keep their meaning,
so they are recorded as unquoted. `argv` returns the argument vector only
when the string is a single simple command whose words need no expansion
beyond quote removal: no operator, no newline, no unquoted `$`, backquote or
pattern character, no leading unquoted `~`, and no reserved word in command
position. Every other string is `none`. Leading assignment words are not part
of the argument vector.

Words of plain characters (letters, digits and a few punctuation marks)
joined by single spaces come back from `argv` as those words
(`argv_intercalate`).
-/

namespace Forge.Lib.Shell

/-- A character of a word after quote removal, and whether it was quoted. -/
abbrev WordChar := Char × Bool

/-- Tokens of token recognition. -/
inductive Token where
  | word (chars : List WordChar)
  | operator (text : List Char)
  | newline
  deriving DecidableEq, Repr

/-- The operators of the shell grammar. -/
def operators : List (List Char) :=
  ["&&", "||", ";;", "<<", ">>", "<&", ">&", "<>", "<<-", ">|",
    "&", "|", ";", "<", ">", "(", ")"].map String.toList

/-- Whether `text` can still become an operator. -/
def isOperatorPrefix (text : List Char) : Bool := operators.any (text.isPrefixOf ·)

/-- Unquoted blanks, which delimit tokens and are discarded. -/
def isBlank (c : Char) : Bool := c = ' ' || c = '\t'

/-- Quoting state of the machine. -/
inductive Mode where
  | plain
  | singleQuoted
  | doubleQuoted
  /-- after a backslash outside quotes -/
  | escaped
  /-- after a backslash inside double quotes -/
  | doubleEscaped
  /-- after an unquoted `#` that begins a word, up to the newline -/
  | comment
  deriving DecidableEq, Repr

/-- The token being recognized. -/
inductive Current where
  | none
  | word (chars : List WordChar)
  | operator (text : List Char)
  deriving DecidableEq, Repr

/-- State of token recognition: the tokens delimited so far, the current one,
and the quoting mode. -/
structure Lexer where
  tokens : List Token
  current : Current
  mode : Mode
  deriving DecidableEq, Repr

def Lexer.initial : Lexer := ⟨[], .none, .plain⟩

/-- Delimit the current token. -/
def Lexer.delimit (lx : Lexer) : Lexer :=
  match lx.current with
  | .none => lx
  | .word chars => { lx with tokens := lx.tokens ++ [.word chars], current := .none }
  | .operator text => { lx with tokens := lx.tokens ++ [.operator text], current := .none }

/-- Append a character to the current word, starting one if needed. -/
def Lexer.push (lx : Lexer) (c : WordChar) : Lexer :=
  match lx.current with
  | .word chars => { lx with current := .word (chars ++ [c]) }
  | _ => { lx with current := .word [c] }

/-- Make sure a word is being recognized (a quote begins or continues one). -/
def Lexer.ensureWord (lx : Lexer) : Lexer :=
  match lx.current with
  | .word _ => lx
  | _ => { lx with current := .word [] }

/-- An unquoted character with no operator in progress (rules 4 to 11). -/
def Lexer.plainChar (lx : Lexer) (c : Char) : Lexer :=
  if c = '\\' then { lx with mode := .escaped }
  else if c = '\'' then { lx.ensureWord with mode := .singleQuoted }
  else if c = '"' then { lx.ensureWord with mode := .doubleQuoted }
  else if isOperatorPrefix [c] then { lx.delimit with current := .operator [c] }
  else if c = '\n' then
    let done := lx.delimit
    { done with tokens := done.tokens ++ [.newline] }
  else if isBlank c then lx.delimit
  else match lx.current with
    | .word _ => lx.push (c, false)
    | _ => if c = '#' then { lx with mode := .comment } else lx.push (c, false)

/-- A backslash ends an operator in progress. -/
def Lexer.delimitOperator (lx : Lexer) : Lexer :=
  match lx.current with
  | .operator _ => lx.delimit
  | _ => lx

/-- One character of token recognition. -/
def Lexer.step (lx : Lexer) (c : Char) : Lexer :=
  match lx.mode with
  | .plain =>
    match lx.current with
    | .operator text =>
      -- an operator grows while it can still be one, else it is delimited
      if isOperatorPrefix (text ++ [c]) then { lx with current := .operator (text ++ [c]) }
      else lx.delimit.plainChar c
    | _ => lx.plainChar c
  | .escaped =>
    -- a backslash-newline is a line continuation and is removed
    if c = '\n' then { lx with mode := .plain }
    else { lx.delimitOperator.push (c, true) with mode := .plain }
  | .singleQuoted =>
    if c = '\'' then { lx with mode := .plain } else lx.push (c, true)
  | .doubleQuoted =>
    if c = '"' then { lx with mode := .plain }
    else if c = '\\' then { lx with mode := .doubleEscaped }
    else lx.push (c, !(c = '$' || c = '`'))
  | .doubleEscaped =>
    if c = '\n' then { lx with mode := .doubleQuoted }
    else if c = '$' || c = '`' || c = '"' || c = '\\' then
      { lx.push (c, true) with mode := .doubleQuoted }
    else { (lx.push ('\\', true)).push (c, true) with mode := .doubleQuoted }
  | .comment =>
    if c = '\n' then { lx with tokens := lx.tokens ++ [.newline], mode := .plain } else lx

/-- Token recognition of a whole string; an unterminated quote or a trailing
backslash is a syntax error. -/
def tokenize (s : List Char) : Option (List Token) :=
  let lx := s.foldl Lexer.step Lexer.initial
  if lx.mode = .plain ∨ lx.mode = .comment then some lx.delimit.tokens else none

/-- The word of a token, if it is one. -/
def Token.asWord : Token → Option (List WordChar)
  | .word chars => some chars
  | _ => none

/-- Whether a word undergoes an expansion other than quote removal. -/
def expands (w : List WordChar) : Bool :=
  w.any (fun c => !c.2 && (c.1 = '$' || c.1 = '`' || c.1 = '*' || c.1 = '?' || c.1 = '[')) ||
    w.head? = some ('~', false)

/-- A name: a letter or underscore, then letters, digits and underscores. -/
def isName : List Char → Bool
  | c :: cs => (c.isAlpha || c = '_') && cs.all fun d => d.isAlphanum || d = '_'
  | [] => false

/-- An assignment word: an unquoted name followed by an unquoted `=`. -/
def isAssignment (w : List WordChar) : Bool :=
  let name := w.takeWhile (· ≠ ('=', false))
  name.length < w.length && name.all (!·.2) && isName (name.map Prod.fst)

/-- The reserved words, recognized unquoted in command position. -/
def reservedWords : List (List Char) :=
  ["!", "\x7b", "\x7d", "case", "do", "done", "elif", "else", "esac", "fi", "for", "if", "in",
    "then", "until", "while"].map String.toList

def isReserved (w : List WordChar) : Bool :=
  w.all (!·.2) && reservedWords.contains (w.map Prod.fst)

/-- The argument vector of a string that is one simple command of literal
words; `none` for anything else. -/
def argv (s : List Char) : Option (List (List Char)) := do
  let tokens ← tokenize s
  let words ← tokens.mapM Token.asWord
  if words.any expands then none
  else match words with
    | [] => none
    | first :: _ =>
      if isReserved first then none
      else
        match words.dropWhile isAssignment with
        | [] => none
        | command => some (command.map fun w => w.map Prod.fst)

/-! ## Plain words

A plain word is made of characters that stand for themselves unquoted in any
position. Plain words joined by single spaces are one simple command whose
argument vector is those words. -/

/-- ASCII letters and digits, and `-_./:=@,+%`. -/
def isPlainChar (c : Char) : Bool := c.isAlphanum || "-_./:=@,+%".toList.contains c

/-- A word of unquoted characters. -/
def unquoted (w : List Char) : List WordChar := w.map (·, false)

@[simp] theorem map_fst_unquoted (w : List Char) : (unquoted w).map Prod.fst = w := by
  simp [unquoted, Function.comp_def]

theorem ne_of_isPlainChar {c x : Char} (plain : isPlainChar c) (special : isPlainChar x = false) :
    c ≠ x := by
  rintro rfl
  simp_all

theorem isOperatorPrefix_singleton_of_isPlainChar {c : Char} (plain : isPlainChar c) :
    isOperatorPrefix [c] = false := by
  have starts : ∀ op ∈ operators, op.head? ≠ some c := by
    intro op mem
    simp only [operators, List.map_cons, List.map_nil, List.mem_cons, List.not_mem_nil,
      or_false] at mem
    rcases mem with rfl | rfl | rfl | rfl | rfl | rfl | rfl | rfl | rfl | rfl | rfl | rfl | rfl |
      rfl | rfl | rfl | rfl <;>
    · intro same
      exact ne_of_isPlainChar plain (by decide) (Option.some.inj same).symm
  simp only [isOperatorPrefix, List.any_eq_false]
  intro op mem prefixed
  cases op with
  | nil => simp [List.isPrefixOf] at prefixed
  | cons d rest =>
    simp only [List.isPrefixOf, beq_iff_eq, Bool.and_eq_true] at prefixed
    exact starts _ mem (by rw [prefixed.1]; rfl)

@[simp] theorem Lexer.delimit_mode (lx : Lexer) : lx.delimit.mode = lx.mode := by
  unfold Lexer.delimit
  split <;> rfl

theorem Lexer.plainChar_of_isPlainChar (lx : Lexer) {c : Char} (plain : isPlainChar c) :
    lx.plainChar c = lx.push (c, false) := by
  have notHash : c ≠ '#' := ne_of_isPlainChar plain (by decide)
  simp only [Lexer.plainChar, isOperatorPrefix_singleton_of_isPlainChar plain, isBlank,
    ne_of_isPlainChar plain (x := '\\') (by decide), ne_of_isPlainChar plain (x := '\'') (by decide),
    ne_of_isPlainChar plain (x := '"') (by decide), ne_of_isPlainChar plain (x := '\n') (by decide),
    ne_of_isPlainChar plain (x := ' ') (by decide), ne_of_isPlainChar plain (x := '\t') (by decide),
    notHash, if_false, decide_false, Bool.or_false, Bool.false_eq_true]
  split <;> rfl

theorem Lexer.step_plain (tokens : List Token) (current : Current) {c : Char}
    (notOperator : ∀ text, current ≠ .operator text) (plain : isPlainChar c) :
    Lexer.step ⟨tokens, current, .plain⟩ c = Lexer.push ⟨tokens, current, .plain⟩ (c, false) := by
  cases current with
  | operator text => exact absurd rfl (notOperator text)
  | none | word _ => exact Lexer.plainChar_of_isPlainChar _ plain

theorem foldl_step_plainWord (tokens : List Token) :
    ∀ (w : List Char) (cs : List WordChar), (∀ c ∈ w, isPlainChar c) →
      w.foldl Lexer.step ⟨tokens, .word cs, .plain⟩ = ⟨tokens, .word (cs ++ unquoted w), .plain⟩
  | [], cs, _ => by simp [unquoted]
  | c :: rest, cs, plain => by
    rw [List.foldl_cons, Lexer.step_plain tokens _ (by simp) (plain c List.mem_cons_self)]
    rw [show Lexer.push ⟨tokens, .word cs, .plain⟩ (c, false) = ⟨tokens, .word (cs ++ [(c, false)]), .plain⟩
      from rfl]
    rw [foldl_step_plainWord tokens rest _ fun d mem => plain d (List.mem_cons_of_mem c mem)]
    simp [unquoted]

theorem foldl_step_plainWord_of_none (tokens : List Token) {w : List Char}
    (plain : w ≠ [] ∧ ∀ c ∈ w, isPlainChar c) :
    w.foldl Lexer.step ⟨tokens, .none, .plain⟩ = ⟨tokens, .word (unquoted w), .plain⟩ := by
  obtain ⟨c, rest, rfl⟩ := List.exists_cons_of_ne_nil plain.1
  rw [List.foldl_cons, Lexer.step_plain tokens _ (by simp) (plain.2 c List.mem_cons_self)]
  rw [show Lexer.push ⟨tokens, .none, .plain⟩ (c, false) = ⟨tokens, .word [(c, false)], .plain⟩ from rfl]
  rw [foldl_step_plainWord tokens rest _ fun d mem => plain.2 d (List.mem_cons_of_mem c mem)]
  rfl

theorem Lexer.step_word_blank (tokens : List Token) (cs : List WordChar) :
    Lexer.step ⟨tokens, .word cs, .plain⟩ ' ' = ⟨tokens ++ [.word cs], .none, .plain⟩ := by
  simp [Lexer.step, Lexer.plainChar, Lexer.delimit, isOperatorPrefix, operators, isBlank]

theorem foldl_step_intercalate :
    ∀ (words : List (List Char)) (tokens : List Token), words ≠ [] →
      (∀ w ∈ words, w ≠ [] ∧ ∀ c ∈ w, isPlainChar c) →
      (([' '].intercalate words).foldl Lexer.step ⟨tokens, .none, .plain⟩).delimit =
        ⟨tokens ++ words.map (.word ∘ unquoted), .none, .plain⟩
  | [], _, nonempty, _ => absurd rfl nonempty
  | [w], tokens, _, plain => by
    rw [List.intercalate_singleton, foldl_step_plainWord_of_none tokens (plain w List.mem_cons_self)]
    rfl
  | w :: v :: rest, tokens, _, plain => by
    rw [List.intercalate_cons_cons, List.foldl_append, List.foldl_append,
      foldl_step_plainWord_of_none tokens (plain w List.mem_cons_self), List.foldl_cons,
      List.foldl_nil, Lexer.step_word_blank,
      foldl_step_intercalate (v :: rest) _ (List.cons_ne_nil v rest)
        fun u mem => plain u (List.mem_cons_of_mem _ mem)]
    simp

theorem tokenize_intercalate (words : List (List Char)) (nonempty : words ≠ [])
    (plain : ∀ w ∈ words, w ≠ [] ∧ ∀ c ∈ w, isPlainChar c) :
    tokenize ([' '].intercalate words) = some (words.map (.word ∘ unquoted)) := by
  have recognized := foldl_step_intercalate words [] nonempty plain
  have inPlain : (([' '].intercalate words).foldl Lexer.step Lexer.initial).mode = .plain := by
    rw [← Lexer.delimit_mode]
    exact congrArg Lexer.mode recognized
  simp only [tokenize, inPlain, true_or, if_true]
  exact congrArg (some ∘ Lexer.tokens) recognized

theorem mapM_asWord_unquoted (words : List (List Char)) :
    (words.map (.word ∘ unquoted)).mapM Token.asWord = some (words.map unquoted) := by
  induction words with
  | nil => rfl
  | cons w rest ih => simp [List.mapM_cons, Token.asWord, ih]

theorem expands_unquoted {w : List Char} (plain : ∀ c ∈ w, isPlainChar c) :
    expands (unquoted w) = false := by
  have special : ∀ c ∈ w, c ≠ '$' ∧ c ≠ '`' ∧ c ≠ '*' ∧ c ≠ '?' ∧ c ≠ '[' ∧ c ≠ '~' := fun c mem =>
    ⟨ne_of_isPlainChar (plain c mem) (by decide), ne_of_isPlainChar (plain c mem) (by decide),
      ne_of_isPlainChar (plain c mem) (by decide), ne_of_isPlainChar (plain c mem) (by decide),
      ne_of_isPlainChar (plain c mem) (by decide), ne_of_isPlainChar (plain c mem) (by decide)⟩
  simp only [expands, Bool.or_eq_false_iff]
  constructor
  · -- no unquoted character of the word is special
    refine List.any_eq_false.mpr fun d mem => ?_
    obtain ⟨c, mem', rfl⟩ := List.mem_map.mp mem
    simp [special c mem']
  · -- nor does it start with `~`
    cases w with
    | nil => rfl
    | cons c rest => simp [unquoted, (special c List.mem_cons_self).2.2.2.2.2]

theorem plainWords_of_check {words : List (List Char)}
    (checked : words.all (fun w => !w.isEmpty && w.all isPlainChar) = true) :
    ∀ w ∈ words, w ≠ [] ∧ ∀ c ∈ w, isPlainChar c := by
  intro w mem
  have wordChecked := List.all_eq_true.mp checked w mem
  simp only [Bool.and_eq_true, Bool.not_eq_true', List.isEmpty_eq_false_iff, List.all_eq_true]
    at wordChecked
  exact wordChecked

/-- Plain words joined by single spaces, the first neither reserved nor an
assignment, are run as one simple command with those words as its arguments. -/
theorem argv_intercalate (first : List Char) (rest : List (List Char))
    (plain : ∀ w ∈ first :: rest, w ≠ [] ∧ ∀ c ∈ w, isPlainChar c)
    (notReserved : isReserved (unquoted first) = false)
    (notAssignment : isAssignment (unquoted first) = false) :
    argv ([' '].intercalate (first :: rest)) = some (first :: rest) := by
  have literal : ((first :: rest).map unquoted).any expands = false := by
    refine List.any_eq_false.mpr fun w mem => ?_
    obtain ⟨v, mem', rfl⟩ := List.mem_map.mp mem
    simp [expands_unquoted (plain v mem').2]
  unfold argv
  rw [tokenize_intercalate (first :: rest) (List.cons_ne_nil _ _) plain]
  simp only [Option.bind_eq_bind, Option.bind_some, mapM_asWord_unquoted, literal,
    Bool.false_eq_true, if_false]
  simp only [List.map_cons, notReserved, List.dropWhile_cons, notAssignment, Bool.false_eq_true,
    if_false]
  simp [Function.comp_def]

end Forge.Lib.Shell
