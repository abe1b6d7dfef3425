/-!
# Blank characters

A character is blank when it has the Unicode property `White_Space`.  Texts are
trimmed of such characters, and a text made of them alone carries nothing.
-/

namespace SourceHarvest.Text

/-- The ranges of code points with the Unicode property `White_Space`, in order. -/
def blankRanges : List (Nat × Nat) :=
  [(0x0009, 0x000D), (0x0020, 0x0020), (0x0085, 0x0085), (0x00A0, 0x00A0), (0x1680, 0x1680),
   (0x2000, 0x200A), (0x2028, 0x2029), (0x202F, 0x202F), (0x205F, 0x205F), (0x3000, 0x3000)]

/-- The character has the Unicode property `White_Space`. -/
def isBlank (c : Char) : Bool :=
  blankRanges.any fun range => range.1 ≤ c.toNat && c.toNat ≤ range.2

/-- Every character that Lean counts as whitespace is blank. -/
theorem isBlank_of_isWhitespace {c : Char} (white : c.isWhitespace = true) : isBlank c = true := by
  simp only [Char.isWhitespace, Bool.or_eq_true, decide_eq_true_eq] at white
  rcases white with ((white | white) | white) | white <;> subst white <;> decide

/-- Drop leading and trailing blank characters of a list. -/
def trimBlanks (text : List Char) : List Char :=
  ((text.dropWhile isBlank).reverse.dropWhile isBlank).reverse

/-- Drop leading and trailing blank characters. -/
def trim (text : String) : String :=
  String.ofList (trimBlanks text.toList)

/-- The text has no character that is not blank. -/
def isBlankText (text : List Char) : Bool :=
  text.all isBlank

theorem dropWhile_eq_nil_iff_all {α : Type} {test : α → Bool} {values : List α} :
    values.dropWhile test = [] ↔ values.all test = true := by
  induction values with
  | nil => simp
  | cons value rest inductionHypothesis =>
      by_cases passes : test value = true
      · simp [passes, inductionHypothesis]
      · simp [passes]

/-- Trimming leaves nothing of exactly the blank texts. -/
theorem trimBlanks_eq_nil_iff {text : List Char} :
    trimBlanks text = [] ↔ isBlankText text = true := by
  have split := List.takeWhile_append_dropWhile (p := isBlank) (l := text)
  have whole : text.all isBlank = (text.dropWhile isBlank).all isBlank := by
    conv => lhs; rw [← split]
    rw [List.all_append, List.all_takeWhile, Bool.true_and]
  rw [trimBlanks, List.reverse_eq_nil_iff, dropWhile_eq_nil_iff_all, List.all_reverse,
    isBlankText, whole]

end SourceHarvest.Text
