import Mathlib.Data.List.Basic

/-!
# Base64 decoding as Go's `base64.StdEncoding` performs it

Byte strings and `StdEncoding.DecodeString`: the standard alphabet with `=`
padding, carriage returns and line feeds ignored anywhere, and no check of the
unused low bits of the last quantum (the encoding is not `Strict`).

`decodeQuantum` follows the documented loop of the same name: it reads up to
four symbols, handles padding, and reports a `CorruptInputError` by the input
offset it names. The word-at-a-time fast paths of the library decode the same
quanta and are not modelled separately.
-/

namespace Forge.Lib.Base64

/-- Go byte strings. -/
abbrev Bytes := List UInt8

/-- The bytes of a Go string holding the text `s`: its UTF-8 encoding. -/
def goBytes (s : String) : Bytes := s.toList.flatMap String.utf8EncodeChar

/-- `decodeMap` of the standard alphabet: the six-bit value of a symbol. -/
def decodeSymbol (b : UInt8) : Option Nat :=
  let n := b.toNat
  if 65 ≤ n ∧ n ≤ 90 then some (n - 65)
  else if 97 ≤ n ∧ n ≤ 122 then some (n - 71)
  else if 48 ≤ n ∧ n ≤ 57 then some (n + 4)
  else if n = 43 then some 62
  else if n = 47 then some 63
  else none

def isNewline (b : UInt8) : Bool := b = 10 || b = 13

/-- `=`, the padding character of `StdEncoding`. -/
def padChar : UInt8 := 61

/-- The bytes carried by a quantum of two, three or four symbols. -/
def quantumBytes : List Nat → Bytes
  | [a, b] => [(a * 4 + b / 16).toUInt8]
  | [a, b, c] => [(a * 4 + b / 16).toUInt8, ((b % 16) * 16 + c / 4).toUInt8]
  | [a, b, c, d] =>
    [(a * 4 + b / 16).toUInt8, ((b % 16) * 16 + c / 4).toUInt8, ((c % 4) * 64 + d).toUInt8]
  | _ => []

/-- Outcome of one call of `decodeQuantum`. -/
inductive Quantum where
  /-- the input was exhausted before a symbol: nothing decoded -/
  | finished
  /-- bytes decoded and the input left after them -/
  | decoded (out : Bytes) (rest : Bytes)
  /-- `CorruptInputError` at an input offset -/
  | corrupt (offset : Nat)
  deriving DecidableEq, Repr

/-- After padding: only line breaks may follow, or the input is corrupt at the
first other byte. -/
def afterPadding (sextets : List Nat) (si : Nat) (rest : Bytes) : Quantum :=
  let skipped := rest.takeWhile isNewline
  if rest.length = skipped.length then .decoded (quantumBytes sextets) []
  else .corrupt (si + skipped.length)

/-- `decodeQuantum`: `sextets` holds the symbols read so far, `si` the offset of
`rest` in the input, `total` the input length. -/
def decodeQuantum (total : Nat) : List Nat → Nat → Bytes → Quantum
  | [], _, [] => .finished
  | [_], si, [] => .corrupt (si - 1)
  | sextets, si, [] => .corrupt (si - sextets.length)
  | sextets, si, b :: rest =>
    match decodeSymbol b with
    | some v =>
      if sextets.length = 3 then .decoded (quantumBytes (sextets ++ [v])) rest
      else decodeQuantum total (sextets ++ [v]) (si + 1) rest
    | none =>
      if isNewline b then decodeQuantum total sextets (si + 1) rest
      else if b ≠ padChar then .corrupt si
      else if sextets.length < 2 then .corrupt si
      else if sextets.length = 2 then
        -- "==" is expected: the second `=` may follow line breaks
        let skipped := rest.takeWhile isNewline
        match rest.drop skipped.length with
        | [] => .corrupt total
        | b' :: rest' =>
          if b' ≠ padChar then .corrupt (si + skipped.length)
          else afterPadding sextets (si + skipped.length + 2) rest'
      else afterPadding sextets (si + 1) rest

/-- The decoding loop `for si < len(src)`; `fuel` bounds the quanta, and the
input length suffices since each quantum consumes input. -/
def decodeLoop (total : Nat) : Nat → Nat → Bytes → Except Nat Bytes
  | 0, _, _ => .ok []
  | fuel + 1, si, src =>
    match decodeQuantum total [] si src with
    | .finished => .ok []
    | .corrupt offset => .error offset
    | .decoded out rest =>
      (decodeLoop total fuel (si + (src.length - rest.length)) rest).map (out ++ ·)

/-- `StdEncoding.DecodeString`: the decoded bytes, or the offset of a
`CorruptInputError`. -/
def decodeString (src : Bytes) : Except Nat Bytes :=
  decodeLoop src.length (src.length + 1) 0 src

/-! ## Encoding, and decoding it back -/

/-- `encodeStd`: the symbol of a six-bit value. -/
def encodeSymbol (v : Nat) : UInt8 :=
  if v < 26 then (v + 65).toUInt8
  else if v < 52 then (v + 71).toUInt8
  else if v < 62 then (v - 4).toUInt8
  else if v = 62 then 43
  else 47

theorem decodeSymbol_encodeSymbol : ∀ v < 64, decodeSymbol (encodeSymbol v) = some v := by
  decide

/-- The four six-bit values of a 24-bit value, from its high bits down
(`val>>18&0x3F`, `val>>12&0x3F`, `val>>6&0x3F`, `val&0x3F`). -/
def sextets (val : Nat) : List Nat := [val / 262144 % 64, val / 4096 % 64, val / 64 % 64, val % 64]

/-- `StdEncoding.EncodeToString`: three bytes become four symbols; a last one
or two bytes become two or three symbols padded with `=` to four. -/
def encodeToString : Bytes → Bytes
  | a :: b :: c :: rest =>
    (sextets (a.toNat * 65536 + b.toNat * 256 + c.toNat)).map encodeSymbol ++ encodeToString rest
  | [a, b] => ((sextets (a.toNat * 65536 + b.toNat * 256)).take 3).map encodeSymbol ++ [padChar]
  | [a] => ((sextets (a.toNat * 65536)).take 2).map encodeSymbol ++ [padChar, padChar]
  | [] => []

theorem sextets_lt (val : Nat) : ∀ v ∈ sextets val, v < 64 := by
  simp only [sextets, List.mem_cons, List.not_mem_nil, or_false]
  rintro v (rfl | rfl | rfl | rfl) <;> exact Nat.mod_lt _ (by decide)

theorem quantumBytes_three (a b c : UInt8) :
    quantumBytes (sextets (a.toNat * 65536 + b.toNat * 256 + c.toNat)) = [a, b, c] := by
  have small := And.intro a.toNat_lt (And.intro b.toNat_lt c.toNat_lt)
  simp only [sextets, quantumBytes]
  have first : (a.toNat * 65536 + b.toNat * 256 + c.toNat) / 262144 % 64 * 4 +
      (a.toNat * 65536 + b.toNat * 256 + c.toNat) / 4096 % 64 / 16 = a.toNat := by omega
  have second : (a.toNat * 65536 + b.toNat * 256 + c.toNat) / 4096 % 64 % 16 * 16 +
      (a.toNat * 65536 + b.toNat * 256 + c.toNat) / 64 % 64 / 4 = b.toNat := by omega
  have third : (a.toNat * 65536 + b.toNat * 256 + c.toNat) / 64 % 64 % 4 * 64 +
      (a.toNat * 65536 + b.toNat * 256 + c.toNat) % 64 = c.toNat := by omega
  rw [first, second, third]
  simp

theorem quantumBytes_two (a b : UInt8) :
    quantumBytes ((sextets (a.toNat * 65536 + b.toNat * 256)).take 3) = [a, b] := by
  have small := And.intro a.toNat_lt b.toNat_lt
  simp only [sextets, List.take, quantumBytes]
  have first : (a.toNat * 65536 + b.toNat * 256) / 262144 % 64 * 4 +
      (a.toNat * 65536 + b.toNat * 256) / 4096 % 64 / 16 = a.toNat := by omega
  have second : (a.toNat * 65536 + b.toNat * 256) / 4096 % 64 % 16 * 16 +
      (a.toNat * 65536 + b.toNat * 256) / 64 % 64 / 4 = b.toNat := by omega
  rw [first, second]
  simp

theorem quantumBytes_one (a : UInt8) : quantumBytes ((sextets (a.toNat * 65536)).take 2) = [a] := by
  have small := a.toNat_lt
  simp only [sextets, List.take, quantumBytes]
  have first : a.toNat * 65536 / 262144 % 64 * 4 + a.toNat * 65536 / 4096 % 64 / 16 = a.toNat := by
    omega
  rw [first]
  simp

theorem decodeSymbol_padChar : decodeSymbol padChar = none := by decide

theorem isNewline_padChar : isNewline padChar = false := by decide

theorem decodeQuantum_four (total si : Nat) {v₁ v₂ v₃ v₄ : Nat}
    (small : v₁ < 64 ∧ v₂ < 64 ∧ v₃ < 64 ∧ v₄ < 64) (rest : Bytes) :
    decodeQuantum total [] si ([v₁, v₂, v₃, v₄].map encodeSymbol ++ rest) =
      .decoded (quantumBytes [v₁, v₂, v₃, v₄]) rest := by
  obtain ⟨small₁, small₂, small₃, small₄⟩ := small
  simp [decodeQuantum, decodeSymbol_encodeSymbol _ small₁, decodeSymbol_encodeSymbol _ small₂,
    decodeSymbol_encodeSymbol _ small₃, decodeSymbol_encodeSymbol _ small₄]

theorem decodeQuantum_three_padded (total si : Nat) {v₁ v₂ v₃ : Nat}
    (small : v₁ < 64 ∧ v₂ < 64 ∧ v₃ < 64) :
    decodeQuantum total [] si ([v₁, v₂, v₃].map encodeSymbol ++ [padChar]) =
      .decoded (quantumBytes [v₁, v₂, v₃]) [] := by
  obtain ⟨small₁, small₂, small₃⟩ := small
  simp [decodeQuantum, decodeSymbol_encodeSymbol _ small₁, decodeSymbol_encodeSymbol _ small₂,
    decodeSymbol_encodeSymbol _ small₃, decodeSymbol_padChar, isNewline_padChar, afterPadding]

theorem decodeQuantum_two_padded (total si : Nat) {v₁ v₂ : Nat} (small : v₁ < 64 ∧ v₂ < 64) :
    decodeQuantum total [] si ([v₁, v₂].map encodeSymbol ++ [padChar, padChar]) =
      .decoded (quantumBytes [v₁, v₂]) [] := by
  obtain ⟨small₁, small₂⟩ := small
  simp [decodeQuantum, decodeSymbol_encodeSymbol _ small₁, decodeSymbol_encodeSymbol _ small₂,
    decodeSymbol_padChar, isNewline_padChar, afterPadding]

theorem decodeQuantum_encoded_three (total si : Nat) (a b c : UInt8) (rest : Bytes) :
    decodeQuantum total [] si
        ((sextets (a.toNat * 65536 + b.toNat * 256 + c.toNat)).map encodeSymbol ++ rest) =
      .decoded [a, b, c] rest := by
  have small := sextets_lt (a.toNat * 65536 + b.toNat * 256 + c.toNat)
  simp only [sextets, List.mem_cons, forall_eq_or_imp] at small
  rw [← quantumBytes_three a b c]
  exact decodeQuantum_four total si ⟨small.1, small.2.1, small.2.2.1, small.2.2.2.1⟩ rest

theorem decodeQuantum_encoded_two (total si : Nat) (a b : UInt8) :
    decodeQuantum total [] si (encodeToString [a, b]) = .decoded [a, b] [] := by
  have small := sextets_lt (a.toNat * 65536 + b.toNat * 256)
  simp only [sextets, List.mem_cons, forall_eq_or_imp] at small
  rw [encodeToString, ← quantumBytes_two a b]
  exact decodeQuantum_three_padded total si ⟨small.1, small.2.1, small.2.2.1⟩

theorem decodeQuantum_encoded_one (total si : Nat) (a : UInt8) :
    decodeQuantum total [] si (encodeToString [a]) = .decoded [a] [] := by
  have small := sextets_lt (a.toNat * 65536)
  simp only [sextets, List.mem_cons, forall_eq_or_imp] at small
  rw [encodeToString, ← quantumBytes_one a]
  exact decodeQuantum_two_padded total si ⟨small.1, small.2.1⟩

theorem decodeLoop_nil (total si : Nat) {fuel : Nat} (positive : 0 < fuel) :
    decodeLoop total fuel si [] = .ok [] := by
  obtain ⟨fuel, rfl⟩ := Nat.exists_eq_succ_of_ne_zero (Nat.pos_iff_ne_zero.mp positive)
  rfl

/-- The decoding loop reads an encoding back, a quantum at a time, given a
quantum of fuel for each three bytes and one for the end. -/
theorem decodeLoop_encodeToString (total : Nat) :
    ∀ (bs : Bytes) (fuel si : Nat), bs.length < fuel → decodeLoop total fuel si (encodeToString bs) = .ok bs
  | _, 0, _, short => absurd short (Nat.not_lt_zero _)
  | [], _ + 1, _, _ => rfl
  | [a], fuel + 1, si, short => by
    rw [decodeLoop, decodeQuantum_encoded_one]
    dsimp only
    rw [decodeLoop_nil total _ (by simpa using short)]
    rfl
  | [a, b], fuel + 1, si, short => by
    rw [decodeLoop, decodeQuantum_encoded_two]
    dsimp only
    rw [decodeLoop_nil total _ (by simp at short; omega)]
    rfl
  | a :: b :: c :: rest, fuel + 1, si, short => by
    rw [decodeLoop, encodeToString, decodeQuantum_encoded_three]
    dsimp only
    rw [decodeLoop_encodeToString total rest fuel _ (by simp at short; omega)]
    rfl

theorem length_le_encodeToString : ∀ bs : Bytes, bs.length ≤ (encodeToString bs).length
  | a :: b :: c :: rest => by
    have later := length_le_encodeToString rest
    simp [encodeToString, sextets]
    omega
  | [a, b] => by simp [encodeToString, sextets]
  | [a] => by simp [encodeToString, sextets]
  | [] => Nat.le_refl 0

theorem decodeString_encodeToString (bs : Bytes) : decodeString (encodeToString bs) = .ok bs :=
  decodeLoop_encodeToString _ bs _ 0 (Nat.lt_succ_of_le (length_le_encodeToString bs))

theorem encodeToString_ne_nil {bs : Bytes} (nonempty : bs ≠ []) : encodeToString bs ≠ [] := by
  intro empty
  have bounded := length_le_encodeToString bs
  rw [empty, List.length_nil, Nat.le_zero, List.length_eq_zero_iff] at bounded
  exact nonempty bounded

end Forge.Lib.Base64
