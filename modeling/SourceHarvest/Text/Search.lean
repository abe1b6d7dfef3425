/-!
# Searching in a text
-/

namespace SourceHarvest.Text

/-- The phrase occurs in the text. -/
def occursIn (phrase : List Char) : List Char → Bool
  | [] => phrase.isEmpty
  | c :: rest => phrase.isPrefixOf (c :: rest) || occursIn phrase rest

/-- A phrase occurs in a text if the text is the phrase between two others. -/
theorem occursIn_iff {phrase text : List Char} :
    occursIn phrase text = true ↔ phrase <:+: text := by
  induction text with
  | nil => simp [occursIn]
  | cons c rest inductionHypothesis =>
      rw [occursIn, Bool.or_eq_true, inductionHypothesis, List.isPrefixOf_iff_prefix,
        List.infix_cons_iff]

end SourceHarvest.Text
