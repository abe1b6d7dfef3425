import SourceHarvest.Proofs.Json.Compact

/-!
# Compact texts are single lines

The only control characters in the text of a document are blanks between its tokens: inside quotes
they stand as escapes.  A compact text has no blanks between its tokens, so it has no line breaks,
whatever texts are quoted in it.
-/

namespace SourceHarvest.Json

/-- There are no control characters in a text. -/
def Printable (text : List Char) : Prop :=
  ∀ c ∈ text, 0x20 ≤ c.toNat

namespace Printable

variable {first second : List Char}

theorem nil : Printable [] :=
  fun _ impossible => (List.not_mem_nil impossible).elim

theorem append (left : Printable first) (right : Printable second) : Printable (first ++ second) :=
  fun c member => (List.mem_append.mp member).elim (left c) (right c)

theorem cons {c : Char} (here : 0x20 ≤ c.toNat) (further : Printable first) :
    Printable (c :: first) :=
  List.forall_mem_cons.mpr ⟨here, further⟩

/-- The characters of a text can be looked at one by one. -/
theorem of_all (above : first.all (fun c => decide (0x20 ≤ c.toNat)) = true) : Printable first :=
  fun c member => of_decide_eq_true (List.all_eq_true.mp above c member)

/-- There are no line breaks in a text without control characters. -/
theorem newline_not_mem (printable : Printable first) : '\n' ∉ first := by
  intro member
  exact absurd (printable _ member) (by decide)

end Printable

theorem printable_digitChars (digits : List (Fin 10)) : Printable (digitChars digits) := by
  have each (digit : Fin 10) : 0x20 ≤ digit.val.digitChar.toNat := by
    revert digit
    decide
  intro c member
  obtain ⟨digit, _, rfl⟩ := List.mem_map.mp member
  exact each digit

/-! ## Numerals -/

theorem SpellsFraction.printable {fraction : Option (List (Fin 10))} {word : List Char}
    (spelled : SpellsFraction fraction word) : Printable word := by
  cases spelled with
  | absent => exact .nil
  | present => exact .cons (by decide) (printable_digitChars _)

theorem SpellsSign.printable {negative : Bool} {word : List Char}
    (spelled : SpellsSign negative word) : Printable word := by
  cases spelled with
  | absent => exact .nil
  | minus | plus => exact .cons (by decide) .nil

theorem SpellsExponent.printable {exponent : Option NumeralExponent} {word : List Char}
    (spelled : SpellsExponent exponent word) : Printable word := by
  cases spelled with
  | absent => exact .nil
  | present letter sign _ =>
      refine .cons ?_ (sign.printable.append (printable_digitChars _))
      rcases letter with rfl | rfl <;> decide

theorem Numeral.SpellsMagnitude.printable {numeral : Numeral} {word : List Char}
    (spelled : numeral.SpellsMagnitude word) : Printable word := by
  cases spelled with
  | intro _ fraction exponent =>
      exact (printable_digitChars _).append (fraction.printable.append exponent.printable)

/-! ## Quoted texts -/

namespace Quoted

open SourceHarvest.Digest (hexValue?)

theorem le_toNat_of_hexValue? {digit : Char} {value : Nat} (read : hexValue? digit = some value) :
    0x20 ≤ digit.toNat := by
  have above {least : Char} (ordered : least ≤ digit) (printable : 0x20 ≤ least.toNat) :
      0x20 ≤ digit.toNat :=
    Nat.le_trans printable (UInt32.le_iff_toNat_le.mp ordered)
  rw [hexValue?] at read
  split at read
  · rename_i range
    exact above range.1 (by decide)
  split at read
  · rename_i range
    exact above range.1 (by decide)
  split at read
  · rename_i range
    exact above range.1 (by decide)
  · cases read

theorem le_toNat_of_escaped? {letter c : Char} (read : escaped? letter = some c) :
    0x20 ≤ letter.toNat := by
  unfold escaped? at read
  split at read
  case h_9 => cases read
  all_goals decide

/-- Control characters in a quoted text are spelled without them. -/
theorem SpellsPiece.printable {piece : Piece} {word : List Char} (spelled : SpellsPiece piece word) :
    Printable word := by
  cases spelled with
  | plain _ _ printable => exact .cons printable .nil
  | letter read => exact .cons (by decide) (.cons (le_toNat_of_escaped? read) .nil)
  | unit first second third fourth =>
      exact .cons (by decide) <| .cons (by decide) <| .cons (le_toNat_of_hexValue? first) <|
        .cons (le_toNat_of_hexValue? second) <| .cons (le_toNat_of_hexValue? third) <|
          .cons (le_toNat_of_hexValue? fourth) .nil

theorem SpellsPieces.printable {pieces : List Piece} {word : List Char}
    (spelled : SpellsPieces pieces word) : Printable word := by
  induction spelled with
  | nil => exact .nil
  | cons piece _ inductionHypothesis => exact piece.printable.append inductionHypothesis

end Quoted

/-! ## Tokens -/

theorem Token.Spells.printable {token : Token} {word : List Char} (spelled : Spells token word) :
    Printable word := by
  cases spelled with
  | unsigned _ magnitude => exact magnitude.printable
  | signed _ magnitude => exact .cons (by decide) magnitude.printable
  | text pieces => exact .cons (by decide) (pieces.printable.append (.cons (by decide) .nil))
  | openArray | closeArray | openObject | closeObject | comma | colon | null | yes | no =>
      exact .of_all rfl

theorem Token.SpellsClosely.printable {tokens : List Token} {word : List Char}
    (spelled : SpellsClosely tokens word) : Printable word := by
  induction spelled with
  | nil => exact .nil
  | cons token _ inductionHypothesis => exact token.printable.append inductionHypothesis

/-- A compact text is one line. -/
theorem Value.newline_not_mem_compact (value : Value) : '\n' ∉ value.compact.toList := by
  rw [compact, String.toList_ofList]
  exact value.spellsClosely_writeWith.printable.newline_not_mem

end SourceHarvest.Json
