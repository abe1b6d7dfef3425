import SourceHarvest.Proofs.Json.Tokens
import Mathlib.Data.List.DropRight

/-!
# Written numbers that are no integers

The shortest decimal of a number that is not zero has a digit that is not zero, so its digits
without zeros at their end start with one that is not zero.  However the layout puts the decimal
point, such digits make up a numeral.  An infinity is written as a null.
-/

namespace SourceHarvest.Numeric

open Json

/-! ## Digits -/

theorem Interval.digits_ne_zero {interval : Interval} (positive : 0 < interval.low)
    {decimal : Decimal} (inside : interval.contains decimal = true) : decimal.digits ≠ 0 := by
  intro zero
  have shifted : 0 < interval.low * Nat.pow 10 (-decimal.exponent).toNat :=
    Nat.mul_pos positive (Nat.pow_pos (by decide))
  simp only [contains, zero, Nat.zero_mul] at inside
  split at inside
  · simp only [Bool.and_eq_true, decide_eq_true_eq] at inside
    omega
  · simp only [Bool.and_eq_true, decide_eq_true_eq] at inside
    omega

theorem Interval.low_around_pos {format : Format} {significand : Nat} (nonzero : significand ≠ 0)
    (exponent : Int) : 0 < (around format significand exponent).low := by
  apply Nat.mul_pos
  · split
    · omega
    · omega
  · rw [Nat.shiftLeft_eq, Nat.one_mul]
    exact Nat.pow_pos (by decide)

theorem digits_shortestDecimal_ne_zero {format : Format} {significand : Nat}
    (nonzero : significand ≠ 0) (exponent : Int) :
    (shortestDecimal format significand exponent).digits ≠ 0 := by
  simp only [shortestDecimal]
  cases found : (Interval.around format significand exponent).search 20
      (Interval.around format significand exponent).decimalOrder with
  | none => exact nonzero
  | some decimal =>
      exact Interval.digits_ne_zero (Interval.low_around_pos nonzero exponent)
        (Interval.search_contains found)

/-- The digits of a number without zeros at their end start with one that is not zero. -/
theorem exists_dropFinalZeros {value : Nat} (nonzero : value ≠ 0) :
    ∃ (digit : Fin 10) (rest : List (Fin 10)), digit ≠ 0 ∧
      (dropFinalZeros (decimalDigits value)).1 = digitChars (digit :: rest) := by
  cases found : digitsOf value with
  | nil =>
      have whole := whole_digitsOf value
      rw [found] at whole
      cases whole
  | cons digit others =>
      have leading : digit ≠ 0 := by
        rintro rfl
        have whole := whole_digitsOf value
        have stands := digitsValue_digitsOf value
        rw [found] at whole stands
        cases whole with
        | zero => exact nonzero stands.symm
        | more _ nonzero => exact nonzero rfl
      have start : (dropFinalZeros (decimalDigits value)).1 <+: digitChars (digit :: others) := by
        rw [← found, ← decimalDigits_eq]
        exact List.rdropWhile_prefix _ _
      rcases List.prefix_map_iff.mp start with ⟨kept, early, same⟩
      cases kept with
      | nil =>
          have zeros := List.rdropWhile_eq_nil_iff.mp same
          rw [decimalDigits_eq, found] at zeros
          have zero : digit.val.digitChar = '0' := by
            simpa using zeros _ (List.mem_cons_self ..)
          have read := Token.digit?_digitChar digit
          rw [zero] at read
          exact absurd (Option.some.inj read).symm leading
      | cons first rest =>
          obtain rfl : first = digit := (List.cons_prefix_cons.mp early).1
          exact ⟨first, rest, leading, same⟩

/-! ## Layouts -/

theorem digitChars_append (first second : List (Fin 10)) :
    digitChars (first ++ second) = digitChars first ++ digitChars second :=
  List.map_append

theorem digitChars_replicate (count : Nat) :
    digitChars (List.replicate count 0) = List.replicate count '0' :=
  List.map_replicate

/-- A whole part with a fraction. -/
theorem spells_fraction (negative : Bool) {whole fraction : List (Fin 10)} (lawful : Whole whole)
    (nonempty : fraction ≠ []) :
    Numeral.SpellsMagnitude ⟨negative, whole, some fraction, none⟩
      (digitChars whole ++ '.' :: digitChars fraction) := by
  have spelled : Numeral.SpellsMagnitude ⟨negative, whole, some fraction, none⟩ _ :=
    .intro lawful (.present nonempty) .absent
  rwa [List.append_nil] at spelled

theorem spells_signedDigits (value : Int) :
    SpellsExponent (some ⟨decide (value < 0), digitsOf value.natAbs⟩)
      ('e' :: signedDigits value) := by
  have sign : SpellsSign (decide (value < 0)) [if value < 0 then '-' else '+'] := by
    split
    · rename_i below
      rw [decide_eq_true below]
      exact .minus
    · rename_i above
      rw [decide_eq_false above]
      exact .plus
  have nonempty : digitsOf value.natAbs ≠ [] := by
    have whole := whole_digitsOf value.natAbs
    rintro nil
    rw [nil] at whole
    cases whole
  rw [signedDigits, decimalDigits_eq]
  exact @SpellsExponent.present _ ⟨_, _⟩ _ (.inl rfl) sign nonempty

/-- However a positive decimal is laid out, its text is that of a numeral. -/
theorem Layout.exists_spells (layout : Layout) {decimal : Decimal} (nonzero : decimal.digits ≠ 0)
    (negative : Bool) :
    ∃ numeral : Numeral, numeral.negative = negative ∧
      numeral.SpellsMagnitude (layout.write decimal) := by
  rcases exists_dropFinalZeros nonzero with ⟨digit, rest, leading, kept⟩
  have lawful (others : List (Fin 10)) : Whole (digit :: others) := .more others leading
  have length : (digitChars (digit :: rest)).length = rest.length + 1 := by
    rw [digitChars, List.length_map, List.length_cons]
  simp only [Layout.write, kept, length]
  generalize decimal.exponent + _ = exponent
  split
  · split
    · have spelled := spells_fraction negative (lawful (rest ++ List.replicate exponent.toNat 0))
        (List.cons_ne_nil 0 [])
      rw [← List.cons_append, digitChars_append, digitChars_replicate] at spelled
      exact ⟨_, rfl, spelled⟩
    · split
      · -- The point stands between two digits.
        cases point : (exponent + (rest.length + 1 : Nat)).toNat with
        | zero => omega
        | succ before =>
            have remains : (digit :: rest).drop (before + 1) ≠ [] := by
              rw [ne_eq, List.drop_eq_nil_iff, List.length_cons]
              omega
            have spelled := spells_fraction negative (lawful (rest.take before)) remains
            rw [← List.take_succ_cons, digitChars, digitChars, List.map_take,
              List.map_drop] at spelled
            exact ⟨_, rfl, spelled⟩
      · generalize (-(exponent + _)).toNat = count
        have spelled := spells_fraction negative .zero
          (List.append_ne_nil_of_right_ne_nil (List.replicate count 0) (List.cons_ne_nil digit rest))
        rw [digitChars_append, digitChars_replicate] at spelled
        exact ⟨_, rfl, spelled⟩
  · have exponent := spells_signedDigits (exponent + (rest.length + 1 : Nat) - 1)
    cases rest with
    | nil =>
        have spelled : Numeral.SpellsMagnitude ⟨negative, [digit], none, _⟩ _ :=
          .intro (lawful []) .absent exponent
        exact ⟨_, rfl, spelled⟩
    | cons next others =>
        have spelled : Numeral.SpellsMagnitude ⟨negative, [digit], some (next :: others), _⟩ _ :=
          .intro (lawful []) (.present (List.cons_ne_nil next others)) exponent
        exact ⟨_, rfl, spelled⟩

/-- The text of a number that is no infinity spells a numeral. -/
theorem exists_spells_of_decimalText? {format : Format} {value : Binary} {text : String}
    (written : decimalText? format value = some text) :
    ∃ numeral : Numeral, Token.Spells (.numeral numeral) text.toList := by
  cases value with
  | infinite negative => cases written
  | finite negative significand exponent =>
      obtain rfl := Option.some.inj written
      have magnitude : ∃ numeral : Numeral, numeral.negative = negative ∧ numeral.SpellsMagnitude
          (if significand = 0 then ['0', '.', '0']
          else (if format = .single then Layout.single else Layout.double).write
            (shortestDecimal format significand exponent)) := by
        split
        · exact ⟨_, rfl, spells_fraction negative .zero (List.cons_ne_nil 0 [])⟩
        · rename_i nonzero
          exact Layout.exists_spells _ (digits_shortestDecimal_ne_zero nonzero exponent) negative
      rcases magnitude with ⟨numeral, sign, spelled⟩
      rw [String.toList_ofList]
      cases negative with
      | false => exact ⟨numeral, .unsigned sign spelled⟩
      | true => exact ⟨numeral, .signed sign spelled⟩

end SourceHarvest.Numeric
