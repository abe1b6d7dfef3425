import SourceHarvest.Proofs.Path.Spelling

/-!
# Backslashes in relative paths

Names can hold backslashes, and in a relative path these become slashes.  So a relative path tells
the names below the root only after they are cut at their backslashes, and names that are cut into
the same parts are merged: a file `a\b` and a file `b` in a directory `a` have one relative path.
-/

namespace SourceHarvest

namespace Text

/-- A text with one mark in place of another is its parts joined with the new mark. -/
theorem joinWithMark_splitAtMark_other (old new : Char) (text : List Char) :
    joinWithMark new (splitAtMark old text) = text.map fun c => if c = old then new else c := by
  induction text with
  | nil => rfl
  | cons c rest inductionHypothesis =>
      rw [List.map_cons, ← inductionHypothesis, splitAtMark]
      cases parts : splitAtMark old rest with
      | nil => exact absurd parts (splitAtMark_ne_nil old rest)
      | cons part others =>
          split
          · rw [joinWithMark_cons_cons]
            rfl
          · cases others with
            | nil => simp [joinWithMark, List.intercalate]
            | cons next more => simp only [joinWithMark_cons_cons, List.cons_append]

theorem joinWithMark_append {mark : Char} {first second : List (List Char)} (firstFilled : first ≠ [])
    (secondFilled : second ≠ []) : joinWithMark mark (first ++ second) =
      joinWithMark mark first ++ mark :: joinWithMark mark second := by
  obtain ⟨head, tail, rfl⟩ := List.exists_cons_of_ne_nil secondFilled
  induction first with
  | nil => exact absurd rfl firstFilled
  | cons part rest inductionHypothesis =>
      cases rest with
      | nil => simp [joinWithMark, List.intercalate]
      | cons next more =>
          have further := inductionHypothesis (List.cons_ne_nil _ _)
          rw [List.cons_append] at further
          rw [List.cons_append, List.cons_append, joinWithMark_cons_cons, further,
            joinWithMark_cons_cons, List.append_assoc, List.cons_append]

/-- To put one mark in place of another in joined texts cuts each of them at the other. -/
theorem map_joinWithMark {old new : Char} (texts : List (List Char)) :
    ((joinWithMark new texts).map fun c => if c = old then new else c) =
      joinWithMark new (texts.flatMap (splitAtMark old)) := by
  induction texts with
  | nil => rfl
  | cons text rest inductionHypothesis =>
      cases rest with
      | nil =>
          rw [List.flatMap_singleton, joinWithMark_splitAtMark_other]
          simp [joinWithMark, List.intercalate]
      | cons next more =>
          have filled : (next :: more).flatMap (splitAtMark old) ≠ [] := by
            rw [List.flatMap_cons]
            exact List.append_ne_nil_of_left_ne_nil (splitAtMark_ne_nil old next) _
          have kept : (if new = old then new else new) = new := ite_self new
          rw [joinWithMark_cons_cons, List.map_append, List.map_cons, kept, inductionHypothesis,
            ← joinWithMark_splitAtMark_other, ← joinWithMark_append (splitAtMark_ne_nil old text) filled]
          rfl

end Text

namespace FileJob

open SourceHarvest.Path

/-- The names of a file below the root, cut at their backslashes. -/
def parts (root path : Path) : List (List Char) :=
  (path.names.drop root.names.length).flatMap fun name => Text.splitAtMark '\\' name.toList

variable {root rest others : List String}

section Parts

variable (rootLegal : ∀ name ∈ root, IsName name) (legal : ∀ name ∈ rest, IsName name)

include rootLegal legal

theorem parts_below : parts (ofNames root) (ofNames (root ++ rest)) =
    rest.flatMap fun name => Text.splitAtMark '\\' name.toList := by
  have whole : ∀ name ∈ root ++ rest, IsName name := fun name member =>
    (List.mem_append.mp member).elim (rootLegal name) (legal name)
  rw [parts, names_ofNames rootLegal, names_ofNames whole, List.drop_left]

/-- The path of a file from the root is its parts with slashes between them. -/
theorem relativePath_eq_join : relativePath (ofNames root) (ofNames (root ++ rest)) =
    String.ofList (Text.joinWithMark '/' (parts (ofNames root) (ofNames (root ++ rest)))) := by
  have whole : ∀ name ∈ root ++ rest, IsName name := fun name member =>
    (List.mem_append.mp member).elim (rootLegal name) (legal name)
  rw [parts_below rootLegal legal, relativePath, below?_ofNames rootLegal whole,
    if_pos (List.prefix_append root rest), List.drop_left, Option.getD_some]
  simp only [textBelow, String.toList_ofList, Text.map_joinWithMark, List.flatMap_map]

theorem not_mem_of_mem_parts {part : List Char}
    (member : part ∈ parts (ofNames root) (ofNames (root ++ rest))) : '/' ∉ part := by
  rw [parts_below rootLegal legal, List.mem_flatMap] at member
  obtain ⟨name, named, inside⟩ := member
  exact fun slash => (legal name named).1 (Text.mem_of_mem_splitAtMark inside slash)

theorem parts_ne_nil (nonempty : rest ≠ []) :
    parts (ofNames root) (ofNames (root ++ rest)) ≠ [] := by
  obtain ⟨name, more, rfl⟩ := List.exists_cons_of_ne_nil nonempty
  rw [parts_below rootLegal legal, List.flatMap_cons]
  exact List.append_ne_nil_of_left_ne_nil (Text.splitAtMark_ne_nil _ _) _

/-- Files have one relative path exactly if their names are cut into the same parts. -/
theorem relativePath_eq_iff_parts_eq (nonempty : rest ≠ []) (othersNonempty : others ≠ [])
    (othersLegal : ∀ name ∈ others, IsName name) :
    relativePath (ofNames root) (ofNames (root ++ rest)) =
        relativePath (ofNames root) (ofNames (root ++ others)) ↔
      parts (ofNames root) (ofNames (root ++ rest)) =
        parts (ofNames root) (ofNames (root ++ others)) := by
  rw [relativePath_eq_join rootLegal legal, relativePath_eq_join rootLegal othersLegal]
  constructor
  · intro same
    have split := congrArg (Text.splitAtMark '/') (String.ofList_inj.mp same)
    rwa [Text.splitAtMark_joinWithMark (parts_ne_nil rootLegal legal nonempty)
        fun part member => not_mem_of_mem_parts rootLegal legal member,
      Text.splitAtMark_joinWithMark (parts_ne_nil rootLegal othersLegal othersNonempty)
        fun part member => not_mem_of_mem_parts rootLegal othersLegal member] at split
  · exact fun same => by rw [same]

/-- Names without backslashes are their own parts. -/
theorem parts_of_unescaped (plain : Unescaped rest) :
    parts (ofNames root) (ofNames (root ++ rest)) = rest.map String.toList := by
  rw [parts_below rootLegal legal]
  clear legal
  induction rest with
  | nil => rfl
  | cons name more inductionHypothesis =>
      rw [List.flatMap_cons, Text.splitAtMark_of_not_mem (plain name List.mem_cons_self),
        inductionHypothesis fun other member => plain other (List.mem_cons_of_mem _ member)]
      rfl

end Parts

end FileJob

end SourceHarvest
