import SourceHarvest.Text.Slice

/-!
# Where slices exist

A slice by byte offsets exists exactly where a text falls into three parts at these
offsets, and it is the middle one.
-/

namespace SourceHarvest.Text

theorem byteSize_cons (c : Char) (rest : List Char) :
    byteSize (c :: rest) = c.utf8Size + byteSize rest :=
  rfl

theorem length_flatMap_utf8EncodeChar (text : List Char) :
    (text.flatMap String.utf8EncodeChar).length = byteSize text := by
  induction text with
  | nil => rfl
  | cons c rest inductionHypothesis =>
      rw [List.flatMap_cons, List.length_append, String.length_utf8EncodeChar, inductionHypothesis,
        byteSize_cons]

/-- A text can be cut behind any part that it begins with. -/
theorem splitAtByte?_append (before after : List Char) :
    splitAtByte? (byteSize before) (before ++ after) = some (before, after) := by
  induction before with
  | nil => simp [byteSize, splitAtByte?]
  | cons c rest inductionHypothesis =>
      have positive : 0 < c.utf8Size := c.utf8Size_pos
      obtain ⟨offset, size⟩ : ∃ offset, byteSize (c :: rest) = offset + 1 :=
        ⟨byteSize (c :: rest) - 1, by rw [byteSize_cons]; omega⟩
      have remaining : offset + 1 - c.utf8Size = byteSize rest := by
        rw [byteSize_cons] at size
        omega
      have fits : c.utf8Size ≤ offset + 1 := by
        rw [byteSize_cons] at size
        omega
      rw [size, List.cons_append, splitAtByte?, if_pos fits, remaining, inductionHypothesis]
      rfl

theorem slice?_append (before middle after : List Char) :
    slice? (before ++ middle ++ after) (byteSize before) (byteSize (before ++ middle)) =
      some middle := by
  have ordered : byteSize before ≤ byteSize (before ++ middle) := by
    rw [byteSize_append]
    omega
  have width : byteSize (before ++ middle) - byteSize before = byteSize middle := by
    rw [byteSize_append]
    omega
  rw [slice?, if_pos ordered, List.append_assoc, splitAtByte?_append, width]
  simp only [Option.bind_eq_bind, Option.bind_some]
  rw [splitAtByte?_append]
  rfl

/-- A slice is the middle one of three parts that the text falls into at its ends. -/
theorem slice?_eq_some_iff {text middle : List Char} {start stop : Nat} :
    slice? text start stop = some middle ↔
      ∃ before after, text = before ++ middle ++ after ∧ byteSize before = start ∧
        byteSize (before ++ middle) = stop := by
  constructor
  · exact slice?_eq_some
  · rintro ⟨before, after, rfl, rfl, rfl⟩
    exact slice?_append before middle after

end SourceHarvest.Text
