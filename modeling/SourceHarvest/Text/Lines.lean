/-!
# Lines of a text

Lines end at a newline character.  A newline at the very end of a text closes
its last line and opens no further one.
-/

namespace SourceHarvest.Text

/-- The number of newline characters. -/
def newlineCount (text : List Char) : Nat :=
  text.count '\n'

theorem newlineCount_append (left right : List Char) :
    newlineCount (left ++ right) = newlineCount left + newlineCount right :=
  List.count_append

/-- The number of lines: one per newline, and one more for text after the last of them. -/
def lineCount (text : List Char) : Nat :=
  newlineCount text + if text.getLast?.all (· == '\n') then 0 else 1

/-- Drop the newline characters at the end. -/
def dropFinalNewlines (text : List Char) : List Char :=
  (text.reverse.dropWhile (· == '\n')).reverse

/-- Dropping newlines at the end leaves a text that the input continues. -/
theorem dropFinalNewlines_append (text : List Char) :
    ∃ count, dropFinalNewlines text ++ List.replicate count '\n' = text := by
  have split := List.takeWhile_append_dropWhile (p := (· == '\n')) (l := text.reverse)
  refine ⟨(text.reverse.takeWhile (· == '\n')).length, ?_⟩
  have newlines : text.reverse.takeWhile (· == '\n') =
      List.replicate (text.reverse.takeWhile (· == '\n')).length '\n' := by
    rw [List.eq_replicate_iff]
    refine ⟨rfl, fun c member => ?_⟩
    have all := List.all_takeWhile (p := (· == '\n')) (l := text.reverse)
    simpa using List.all_eq_true.mp all c member
  have reversed := congrArg List.reverse split
  rw [List.reverse_append, List.reverse_reverse] at reversed
  rw [dropFinalNewlines, ← List.reverse_replicate, ← newlines]
  exact reversed

/-- Split at newlines; the text after the last newline is a line of its own unless it is empty. -/
def splitLines (text : List Char) : List (List Char) :=
  match text with
  | [] => []
  | first :: rest =>
      match splitLines rest with
      | [] => if first == '\n' then [[]] else [[first]]
      | line :: lines => if first == '\n' then [] :: line :: lines else (first :: line) :: lines

end SourceHarvest.Text
