/-!
# Slices of a text by byte offsets

Offsets count bytes of the UTF-8 form.  An offset inside a character, or beyond
the end, names no place in the text, and a slice between such offsets does not
exist.
-/

namespace SourceHarvest.Text

/-- The number of bytes of a list of characters in UTF-8. -/
def byteSize (text : List Char) : Nat :=
  text.foldr (fun c size => c.utf8Size + size) 0

theorem byteSize_append (first second : List Char) :
    byteSize (first ++ second) = byteSize first + byteSize second := by
  induction first with
  | nil => simp [byteSize]
  | cons c rest inductionHypothesis =>
      simp only [byteSize, List.cons_append, List.foldr_cons] at inductionHypothesis ⊢
      omega

/-- Cut a text at a byte offset, if that offset lies between two characters. -/
def splitAtByte? : Nat → List Char → Option (List Char × List Char)
  | 0, text => some ([], text)
  | _ + 1, [] => none
  | offset + 1, c :: rest =>
      if c.utf8Size ≤ offset + 1 then
        (splitAtByte? (offset + 1 - c.utf8Size) rest).map fun parts => (c :: parts.1, parts.2)
      else none

/-- The characters between two byte offsets, if both lie between characters and
the first is not the larger. -/
def slice? (text : List Char) (start stop : Nat) : Option (List Char) :=
  if start ≤ stop then do
    let (_, tail) ← splitAtByte? start text
    let (middle, _) ← splitAtByte? (stop - start) tail
    pure middle
  else none

/-- A cut loses nothing, and its first part has as many bytes as asked for. -/
theorem splitAtByte?_eq_some {offset : Nat} {text : List Char} {parts : List Char × List Char}
    (cut : splitAtByte? offset text = some parts) :
    text = parts.1 ++ parts.2 ∧ byteSize parts.1 = offset := by
  induction text generalizing offset parts with
  | nil =>
      cases offset with
      | zero => simp only [splitAtByte?, Option.some.injEq] at cut; subst cut; simp [byteSize]
      | succ offset => simp [splitAtByte?] at cut
  | cons c rest inductionHypothesis =>
      cases offset with
      | zero => simp only [splitAtByte?, Option.some.injEq] at cut; subst cut; simp [byteSize]
      | succ offset =>
          simp only [splitAtByte?] at cut
          split at cut
          · rename_i fits
            obtain ⟨inner, innerCut, equal⟩ := Option.map_eq_some_iff.mp cut
            obtain ⟨joined, size⟩ := inductionHypothesis innerCut
            subst equal
            refine ⟨by simp [joined], ?_⟩
            simp only [byteSize, List.foldr_cons] at size ⊢
            omega
          · simp at cut

/-- The slice sits between two parts of the text. -/
theorem slice?_eq_some {text middle : List Char} {start stop : Nat}
    (cut : slice? text start stop = some middle) :
    ∃ before after, text = before ++ middle ++ after ∧ byteSize before = start ∧
      byteSize (before ++ middle) = stop := by
  simp only [slice?] at cut
  split at cut
  · rename_i ordered
    simp only [Option.bind_eq_bind, Option.bind_eq_some_iff, Option.pure_def, Option.some.injEq] at cut
    obtain ⟨⟨before, tail⟩, firstCut, ⟨inner, after⟩, secondCut, equal⟩ := cut
    obtain ⟨first, firstSize⟩ := splitAtByte?_eq_some firstCut
    obtain ⟨second, secondSize⟩ := splitAtByte?_eq_some secondCut
    simp only at first firstSize second secondSize equal
    subst equal
    refine ⟨before, after, by rw [first, second, List.append_assoc], firstSize, ?_⟩
    rw [byteSize_append]
    omega
  · simp at cut

end SourceHarvest.Text
