import SourceHarvest.Json.Writer
import SourceHarvest.Proofs.Json.Lexis

/-!
# Written numbers and texts

What the writer writes for an integer or a quoted text spells one token.
-/

namespace SourceHarvest.Json

open SourceHarvest.Numeric

/-! ## Numerals -/

/-- The decimal digits of a natural number, without zeros in front. -/
def digitsOf (value : Nat) : List (Fin 10) :=
  if small : value < 10 then [⟨value, small⟩]
  else digitsOf (value / 10) ++ [⟨value % 10, Nat.mod_lt value (by decide)⟩]

theorem decimalDigits_eq (value : Nat) :
    decimalDigits value = digitChars (digitsOf value) := by
  fun_induction digitsOf value with
  | case1 value small => rw [decimalDigits, Nat.toDigits_of_lt_base small]; rfl
  | case2 value large inductionHypothesis =>
      rw [decimalDigits, Nat.toDigits_of_base_le (by decide) (Nat.not_lt.mp large),
        ← decimalDigits, inductionHypothesis, digitChars, digitChars, List.map_append]
      rfl

theorem digitsValue_append (first second : List (Fin 10)) :
    Numeral.digitsValue (first ++ second) =
      second.foldl (fun value digit => 10 * value + digit.val) (Numeral.digitsValue first) :=
  List.foldl_append

/-- The digits of a number stand for it. -/
theorem digitsValue_digitsOf (value : Nat) : Numeral.digitsValue (digitsOf value) = value := by
  fun_induction digitsOf value with
  | case1 value small => simp [Numeral.digitsValue]
  | case2 value large inductionHypothesis =>
      rw [digitsValue_append, inductionHypothesis]
      exact Nat.div_add_mod value 10

/-- The digits of a number are a single zero or do not start with one. -/
theorem whole_digitsOf (value : Nat) : Whole (digitsOf value) := by
  fun_induction digitsOf value with
  | case1 value small =>
      rcases Nat.eq_zero_or_pos value with rfl | positive
      · exact .zero
      · exact .more [] fun zero => Nat.ne_of_gt positive (congrArg Fin.val zero)
  | case2 value large inductionHypothesis =>
      -- A zero in front would be all of the digits before the last, of a number below ten.
      cases found : digitsOf (value / 10) with
      | nil =>
          rw [found] at inductionHypothesis
          cases inductionHypothesis
      | cons digit rest =>
          refine .more _ fun zero => ?_
          have front := digitsValue_digitsOf (value / 10)
          rw [found] at front inductionHypothesis
          subst zero
          cases inductionHypothesis with
          | zero => exact Nat.ne_of_gt (Nat.div_pos (Nat.not_lt.mp large) (by decide)) front.symm
          | more _ nonzero => exact absurd rfl nonzero

theorem spellsMagnitude_decimalDigits (negative : Bool) (value : Nat) :
    Numeral.SpellsMagnitude ⟨negative, digitsOf value, none, none⟩ (decimalDigits value) := by
  have magnitude : Numeral.SpellsMagnitude ⟨negative, digitsOf value, none, none⟩ _ :=
    .intro (whole_digitsOf value) .absent .absent
  rwa [List.append_nil, List.append_nil, ← decimalDigits_eq] at magnitude

/-! ## Quoted texts -/

namespace Quoted

open SourceHarvest.Digest (hexValue? hexDigit)

theorem hexValue?_hexDigit (value : Fin 16) : hexValue? (hexDigit value.val) = some value.val := by
  revert value
  decide

theorem hexDigit_of_lt (value : Nat) (small : value < 16) :
    hexValue? (hexDigit value) = some value :=
  hexValue?_hexDigit ⟨value, small⟩

/-- A control character is spelled by the escape of its number. -/
theorem spellsPiece_unit {c : Char} (control : c.toNat < 0x20) :
    SpellsPiece (.character c)
      ['\\', 'u', '0', '0', hexDigit (c.toNat / 16), hexDigit (c.toNat % 16)] := by
  have zero : hexValue? '0' = some 0 := by decide
  have high := hexDigit_of_lt (c.toNat / 16) (by omega)
  have low := hexDigit_of_lt (c.toNat % 16) (by omega)
  have whole : 4096 * 0 + 256 * 0 + 16 * (c.toNat / 16) + c.toNat % 16 = c.toNat := by omega
  have piece : pieceOfUnit c.toNat = .character c := by
    rw [pieceOfUnit, if_neg (by omega), if_neg (by omega), Char.ofNat_toNat]
  have spelled := SpellsPiece.unit zero zero high low
  rwa [whole, piece] at spelled

theorem spellsPiece_controlEscape {c : Char} (control : c.toNat < 0x20) :
    SpellsPiece (.character c) (controlEscape c) := by
  unfold controlEscape
  split
  · exact .letter rfl
  · exact .letter rfl
  · exact .letter rfl
  · exact .letter rfl
  · exact .letter rfl
  · exact spellsPiece_unit control

/-- The written form of a character spells that character. -/
theorem spellsPiece_writeChar (c : Char) : SpellsPiece (.character c) (writeChar c) := by
  by_cases quote : c = '"'
  · rw [quote]
    exact .letter rfl
  by_cases solidus : c = '\\'
  · rw [solidus]
    exact .letter rfl
  by_cases control : c.toNat < 0x20
  · rw [writeChar, if_neg quote, if_neg solidus, if_pos control]
    exact spellsPiece_controlEscape control
  · rw [writeChar, if_neg quote, if_neg solidus, if_neg control]
    exact .plain quote solidus (Nat.not_lt.mp control)

theorem spellsPieces_flatMap (text : List Char) :
    SpellsPieces (text.map .character) (text.flatMap writeChar) := by
  induction text with
  | nil => exact .nil
  | cons c text inductionHypothesis => exact .cons (spellsPiece_writeChar c) inductionHypothesis

theorem joinPieces?_characters (text : List Char) :
    joinPieces? (text.map .character) = some text := by
  induction text with
  | nil => rfl
  | cons c text inductionHypothesis => rw [List.map_cons, joinPieces?, inductionHypothesis]; rfl

end Quoted

/-! ## Tokens -/

namespace Token

/-- A quoted text spells that text. -/
theorem spells_write (text : String) : Spells (.text (some text)) (Quoted.write text.toList) := by
  have spelled := Spells.text (Quoted.spellsPieces_flatMap text.toList)
  rwa [Quoted.joinPieces?_characters, Option.map_some, String.ofList_toList] at spelled

theorem spells_writeBoolean (value : Bool) : Spells (.boolean value) (Value.writeBoolean value) := by
  cases value
  · exact .no
  · exact .yes

end Token

end SourceHarvest.Json
