/-!
# Splitting at a mark

A text is split at every occurrence of a mark, so it has one part more than it has
marks.  The parts with the mark between them are the text again.
-/

namespace SourceHarvest.Text

/-- Split a text at every occurrence of a mark; a text without one is a single part. -/
def splitAtMark (mark : Char) : List Char → List (List Char)
  | [] => [[]]
  | c :: rest =>
      if c = mark then [] :: splitAtMark mark rest
      else
        match splitAtMark mark rest with
        | [] => [[c]]
        | part :: parts => (c :: part) :: parts

/-- Put a mark between each two parts. -/
def joinWithMark (mark : Char) (parts : List (List Char)) : List Char :=
  [mark].intercalate parts

theorem joinWithMark_cons_cons (mark : Char) (first second : List Char)
    (rest : List (List Char)) :
    joinWithMark mark (first :: second :: rest) =
      first ++ mark :: joinWithMark mark (second :: rest) := by
  simp [joinWithMark, List.intercalate]

theorem splitAtMark_ne_nil (mark : Char) (text : List Char) : splitAtMark mark text ≠ [] := by
  cases text with
  | nil => simp [splitAtMark]
  | cons c rest =>
      simp only [splitAtMark]
      split
      · simp
      · split <;> simp

/-- Splitting loses nothing. -/
theorem joinWithMark_splitAtMark (mark : Char) (text : List Char) :
    joinWithMark mark (splitAtMark mark text) = text := by
  induction text with
  | nil => rfl
  | cons c rest inductionHypothesis =>
      cases equal : splitAtMark mark rest with
      | nil => exact absurd equal (splitAtMark_ne_nil mark rest)
      | cons part parts =>
          rw [equal] at inductionHypothesis
          simp only [splitAtMark, equal]
          split
          · rename_i found
            subst found
            rw [joinWithMark_cons_cons, inductionHypothesis]
            rfl
          · cases parts with
            | nil => simpa [joinWithMark, List.intercalate] using inductionHypothesis
            | cons next more =>
                rw [joinWithMark_cons_cons] at inductionHypothesis ⊢
                rw [← inductionHypothesis]
                rfl

/-- No part holds the mark. -/
theorem not_mem_of_mem_splitAtMark {mark : Char} {text part : List Char}
    (member : part ∈ splitAtMark mark text) : mark ∉ part := by
  induction text generalizing part with
  | nil =>
      rw [splitAtMark, List.mem_singleton] at member
      subst member
      exact List.not_mem_nil
  | cons c rest inductionHypothesis =>
      simp only [splitAtMark] at member
      split at member
      · rcases List.mem_cons.mp member with first | later
        · subst first
          exact List.not_mem_nil
        · exact inductionHypothesis later
      · rename_i other
        cases equal : splitAtMark mark rest with
        | nil => exact absurd equal (splitAtMark_ne_nil mark rest)
        | cons head parts =>
            simp only [equal] at member inductionHypothesis
            rcases List.mem_cons.mp member with first | later
            · subst first
              intro inside
              rcases List.mem_cons.mp inside with same | deeper
              · exact other same.symm
              · exact inductionHypothesis List.mem_cons_self deeper
            · exact inductionHypothesis (List.mem_cons_of_mem _ later)

end SourceHarvest.Text
