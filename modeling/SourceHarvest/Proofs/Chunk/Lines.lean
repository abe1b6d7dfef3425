import SourceHarvest.Proofs.Chunk.Codec
import SourceHarvest.Proofs.Chunk.Windows
import SourceHarvest.Proofs.Syntax.Rows

/-!
# The lines of windows

The lines of a window are found by counting newlines before it and in it.  Said without such
counts, a window starts on the line of the chunk that its first character is on, and ends on that
of its last character other than a newline.  Hence neither goes back from one window to the next,
and no window leaves the lines of a chunk that reach as far as its last character.
-/

namespace SourceHarvest

/-! ## Newlines of a text -/

namespace Text

theorem newlineCount_take_le (text : List Char) {first second : Nat} (ordered : first ≤ second) :
    newlineCount (text.take first) ≤ newlineCount (text.take second) :=
  (List.take_sublist_take_left ordered).count_le '\n'

theorem newlineCount_concat (text : List Char) (c : Char) :
    newlineCount (text ++ [c]) = newlineCount text + if c = '\n' then 1 else 0 := by
  simp [newlineCount, List.count_singleton]

theorem dropFinalNewlines_concat (text : List Char) (c : Char) :
    dropFinalNewlines (text ++ [c]) = if c = '\n' then dropFinalNewlines text else text ++ [c] := by
  by_cases newline : c = '\n' <;> simp [dropFinalNewlines, newline]

/-- A text has one line more than there are newlines before its last character. -/
theorem lineCount_eq {text : List Char} (filled : text ≠ []) :
    lineCount text = newlineCount (text.take (text.length - 1)) + 1 := by
  rcases List.eq_nil_or_concat text with empty | ⟨before, last, rfl⟩
  · exact absurd empty filled
  · have shown : (before ++ [last]).take ((before ++ [last]).length - 1) = before := by simp
    rw [List.concat_eq_append, shown, lineCount, newlineCount_concat, List.getLast?_concat]
    by_cases newline : last = '\n' <;> simp [newline]

/-- The place of the last character of a stretch of text, from one place on and before another,
that is no newline. -/
structure LastOther (text : List Char) (first stop place : Nat) : Prop where
  first_le : first ≤ place
  lt_stop : place < stop
  other : ∃ c, text[place]? = some c ∧ c ≠ '\n'
  newlines : ∀ later, place < later → later < stop → text[later]? = some '\n'

end Text

namespace Chunk

/-! ## Stretches of the text of a chunk -/

/-- The line that a place in the text of a chunk is on: one further for each newline before it. -/
def lineOf (chunk : Chunk) (place : Nat) : Nat :=
  chunk.metadata.startLine + Text.newlineCount (chunk.content.toList.take place)

/-- The line that the last character of a chunk is on. -/
def lastLine (chunk : Chunk) : Nat :=
  chunk.lineOf (chunk.content.toList.length - 1)

/-- The line that a stretch of the text of a chunk ends on: that of its last character other than a
newline, or that of its start if there is none. -/
inductive EndsOn (chunk : Chunk) (first stop : Nat) : Nat → Prop where
  | other (place : Nat) (last : Text.LastOther chunk.content.toList first stop place) :
      EndsOn chunk first stop (chunk.lineOf place)
  | newlines (only : ∀ place, first ≤ place → place < stop →
      chunk.content.toList[place]? = some '\n') :
      EndsOn chunk first stop (chunk.lineOf first)

section Stretch

variable {chunk : Chunk} {first stop line : Nat}

theorem lineOf_le (ordered : first ≤ stop) : chunk.lineOf first ≤ chunk.lineOf stop :=
  Nat.add_le_add_left (Text.newlineCount_take_le _ ordered) _

theorem startLine_le_lineOf (chunk : Chunk) (place : Nat) :
    chunk.metadata.startLine ≤ chunk.lineOf place :=
  Nat.le_add_right _ _

theorem lastLine_le (chunk : Chunk) :
    chunk.lastLine ≤ chunk.metadata.startLine + Text.newlineCount chunk.content.toList :=
  Nat.add_le_add_left ((List.take_sublist _ _).count_le '\n') _

/-- From one place to another the line goes on by the newlines between them. -/
theorem lineOf_add_newlineCount (chunk : Chunk) (ordered : first ≤ stop) :
    chunk.lineOf first + Text.newlineCount ((chunk.content.toList.take stop).drop first) =
      chunk.lineOf stop := by
  have before : (chunk.content.toList.take stop).take first = chunk.content.toList.take first := by
    rw [List.take_take, Nat.min_eq_left ordered]
  rw [lineOf, lineOf, Nat.add_assoc, ← before, ← Text.newlineCount_append, List.take_append_drop]

theorem EndsOn.lineOf_le (ends : chunk.EndsOn first stop line) : chunk.lineOf first ≤ line := by
  cases ends with
  | other place last => exact Chunk.lineOf_le last.first_le
  | newlines only => exact Nat.le_refl _

/-- A stretch does not end below the line of the last place in it. -/
theorem EndsOn.le_lineOf (ends : chunk.EndsOn first stop line) {place : Nat}
    (after : first ≤ place) (final : stop ≤ place + 1) : line ≤ chunk.lineOf place := by
  cases ends with
  | other last isLast =>
      have inside := isLast.lt_stop
      apply Chunk.lineOf_le
      omega
  | newlines only => exact Chunk.lineOf_le after

/-- A stretch that starts and stops later does not end on an earlier line. -/
theorem EndsOn.mono {nextFirst nextStop nextLine : Nat} (ends : chunk.EndsOn first stop line)
    (nextEnds : chunk.EndsOn nextFirst nextStop nextLine) (starts : first ≤ nextFirst)
    (stops : stop ≤ nextStop) : line ≤ nextLine := by
  cases ends with
  | newlines only => exact (Chunk.lineOf_le starts).trans nextEnds.lineOf_le
  | other place last =>
      obtain ⟨c, here, noNewline⟩ := last.other
      have inside := last.lt_stop
      by_cases shared : nextFirst ≤ place
      · -- A later stretch that has this character too ends behind it, or on it.
        cases nextEnds with
        | newlines only =>
            have newline := only place shared (by omega)
            exact absurd (Option.some.inj (here.symm.trans newline)) noNewline
        | other nextPlace nextLast =>
            apply Chunk.lineOf_le
            by_contra before
            have newline := nextLast.newlines place (by omega) (by omega)
            exact noNewline (Option.some.inj (here.symm.trans newline))
      · exact (Chunk.lineOf_le (by omega)).trans nextEnds.lineOf_le

/-- A further newline does not move the line that a stretch ends on. -/
theorem EndsOn.succ (ends : chunk.EndsOn first stop line)
    (newline : chunk.content.toList[stop]? = some '\n') : chunk.EndsOn first (stop + 1) line := by
  cases ends with
  | other place last =>
      refine .other place ⟨last.first_le, Nat.lt_succ_of_lt last.lt_stop, last.other, ?_⟩
      intro later after within
      rcases Nat.lt_succ_iff_lt_or_eq.mp within with inside | rfl
      · exact last.newlines later after inside
      · exact newline
  | newlines only =>
      refine .newlines fun place after within => ?_
      rcases Nat.lt_succ_iff_lt_or_eq.mp within with inside | rfl
      · exact only place after inside
      · exact newline

/-- The newlines of a stretch without those at its end lead to the line that it ends on. -/
theorem endsOn_add_newlineCount (chunk : Chunk) (ordered : first ≤ stop)
    (within : stop ≤ chunk.content.toList.length) :
    chunk.EndsOn first stop (chunk.lineOf first + Text.newlineCount
      (Text.dropFinalNewlines ((chunk.content.toList.take stop).drop first))) := by
  induction stop, ordered using Nat.le_induction with
  | base =>
      rw [List.drop_eq_nil_of_le (List.length_take_le _ _)]
      exact .newlines fun place after before => absurd before (Nat.not_lt.mpr after)
  | succ stop ordered inductionHypothesis =>
      have here := List.getElem?_eq_getElem within
      have reaches : first ≤ (chunk.content.toList.take stop).length := by
        rw [List.length_take_of_le (Nat.le_of_lt within)]
        exact ordered
      rw [List.take_succ_eq_append_getElem within, List.drop_append_of_le_length reaches,
        Text.dropFinalNewlines_concat]
      by_cases newline : chunk.content.toList[stop] = '\n'
      · rw [if_pos newline]
        exact (inductionHypothesis (Nat.le_of_lt within)).succ (newline ▸ here)
      · rw [if_neg newline, Text.newlineCount_concat, if_neg newline, ← Nat.add_assoc,
          lineOf_add_newlineCount chunk ordered, Nat.add_zero]
        exact .other stop ⟨ordered, Nat.lt_succ_self stop, ⟨_, here, newline⟩,
          fun later after inside => absurd after (Nat.not_lt.mpr (Nat.le_of_lt_succ inside))⟩

end Stretch

/-! ## Windows -/

/-- The piece is a window of a chunk and bears its lines: it starts on the line of the chunk that the
window starts on, and ends on the one that the window ends on. -/
structure NumberedAs (chunk : Chunk) (size : WindowSize) (index : Nat) (piece : Chunk) : Prop where
  window : chunk.WindowOf size index piece
  startLine : piece.metadata.startLine = chunk.lineOf (index * size.stride)
  endLine : chunk.EndsOn (index * size.stride)
    (min (index * size.stride + size.greatest) chunk.content.toList.length) piece.metadata.endLine
  ordered : piece.metadata.startLine ≤ piece.metadata.endLine

/-- The lines of the pieces are those of the windows, and do not go back from one to the next. -/
structure NumberedInOrder (chunk : Chunk) (size : WindowSize) (pieces : List Chunk) : Prop where
  each : ∀ (index : Nat) (piece : Chunk), pieces[index]? = some piece →
    chunk.NumberedAs size index piece
  pairwise : pieces.Pairwise fun earlier later =>
    earlier.metadata.startLine ≤ later.metadata.startLine ∧
      earlier.metadata.endLine ≤ later.metadata.endLine

section Windows

variable {chunk : Chunk} {size : WindowSize}

/-- Where the last line of a chunk has 64 bits, no line of a window comes round to zero. -/
theorem numberedAs_window (advances : size.overlap < size.greatest)
    (fits : chunk.lastLine < 0x10000000000000000) {index : Nat}
    (inside : index < size.count chunk.content.toList.length) :
    chunk.NumberedAs size index (chunk.window size index) := by
  have starts := (WindowSize.lt_count_iff advances _ _).mp inside
  generalize stops : min (index * size.stride + size.greatest) chunk.content.toList.length = stop
  have ordered : index * size.stride ≤ stop := by omega
  have ends := endsOn_add_newlineCount chunk ordered (by omega)
  rw [← stops, ← content_window_eq_slice, content_window, stops] at ends
  have below : _ ≤ chunk.lastLine := ends.le_lineOf (by omega) (by omega)
  have startLine : (chunk.window size index).metadata.startLine =
      chunk.lineOf (index * size.stride) :=
    Nat.mod_eq_of_lt (Nat.lt_of_le_of_lt (ends.lineOf_le.trans below) fits)
  have endLine : (chunk.window size index).metadata.endLine =
      chunk.lineOf (index * size.stride) + Text.newlineCount (Text.dropFinalNewlines
        ((chunk.content.toList.drop (index * size.stride)).take size.greatest)) := by
    change lineAfter (chunk.window size index).metadata.startLine _ = _
    rw [startLine]
    exact Nat.mod_eq_of_lt (Nat.lt_of_le_of_lt below fits)
  constructor
  case window => exact windowOf_window chunk size index
  case startLine => exact startLine
  case endLine => rwa [endLine, stops]
  case ordered =>
    rw [startLine, endLine]
    exact Nat.le_add_right _ _

/-- Later windows start and end on no earlier lines. -/
theorem NumberedAs.mono {first second : Nat} {earlier later : Chunk}
    (numbered : chunk.NumberedAs size first earlier)
    (nextNumbered : chunk.NumberedAs size second later) (ordered : first ≤ second) :
    earlier.metadata.startLine ≤ later.metadata.startLine ∧
      earlier.metadata.endLine ≤ later.metadata.endLine := by
  have starts : first * size.stride ≤ second * size.stride := Nat.mul_le_mul_right _ ordered
  constructor
  · rw [numbered.startLine, nextNumbered.startLine]
    exact lineOf_le starts
  · apply numbered.endLine.mono nextNumbered.endLine starts
    omega

theorem numberedInOrder_windows (advances : size.overlap < size.greatest)
    (fits : chunk.lastLine < 0x10000000000000000) :
    chunk.NumberedInOrder size
      ((List.range (size.count chunk.content.toList.length)).map (chunk.window size)) := by
  constructor
  case each =>
    intro index piece found
    obtain rfl := window_of_getElem? found
    have inside := (List.getElem?_eq_some_iff.mp found).1
    rw [List.length_map, List.length_range] at inside
    exact numberedAs_window advances fits inside
  case pairwise =>
    rw [List.pairwise_map]
    apply List.pairwise_lt_range.imp_of_mem
    intro first second firstInside secondInside less
    have numbered := numberedAs_window advances fits (List.mem_range.mp firstInside)
    exact numbered.mono (numberedAs_window advances fits (List.mem_range.mp secondInside)) less.le

end Windows

end Chunk

/-! ## Units of a file -/

/-- The lines of one thing are among those of another. -/
structure ChunkMetadata.LiesWithin (inner outer : ChunkMetadata) : Prop where
  start : outer.startLine ≤ inner.startLine
  ordered : inner.startLine ≤ inner.endLine
  stop : inner.endLine ≤ outer.endLine

/-- The pieces of a chunk stay within its lines if these reach as far as its last character. -/
theorem Chunk.liesWithin_of_split {chunk : Chunk} {size : WindowSize} {pieces : List Chunk}
    (reaches : chunk.lastLine ≤ chunk.metadata.endLine) (fits : chunk.metadata.Fits)
    (cut : chunk.split size = .ok pieces) :
    ∀ piece ∈ pieces, piece.metadata.LiesWithin chunk.metadata := by
  intro piece member
  obtain ⟨advances, ⟨_, rfl⟩ | ⟨_, rfl⟩⟩ := split_eq_ok_iff.mp cut
  · obtain rfl := List.mem_singleton.mp member
    exact ⟨Nat.le_refl _, (piece.startLine_le_lineOf _).trans reaches, Nat.le_refl _⟩
  · obtain ⟨index, inside, rfl⟩ := List.mem_map.mp member
    have within := List.mem_range.mp inside
    have starts := (WindowSize.lt_count_iff advances _ _).mp within
    have numbered := numberedAs_window advances (Nat.lt_succ_of_le (reaches.trans fits.2)) within
    constructor
    case start =>
      rw [numbered.startLine]
      exact chunk.startLine_le_lineOf _
    case ordered => exact numbered.ordered
    case stop => exact (numbered.endLine.le_lineOf (by omega) (by omega)).trans reaches

/-- Whichever place a unit has in its file and however it is cut, the pieces stay within its
lines. -/
def ExtractedChunk.HoldsPieces (unit : ExtractedChunk) : Prop :=
  ∀ ordinal size pieces, (unit.withOrdinal ordinal).split size = .ok pieces →
    ∀ piece ∈ pieces, piece.metadata.LiesWithin unit.metadata

/-- With the right rows, the last line of a unit is the one behind all of its newlines. -/
theorem SyntaxTree.RowsAgree.holdsPieces {units : List String} {file : SourceFile}
    {root : SyntaxTree} (agree : root.RowsAgree file.source) {unit : ExtractedChunk}
    (member : unit ∈ root.extract units file) (fits : unit.metadata.Fits) : unit.HoldsPieces := by
  intro ordinal size pieces
  have reaches : (unit.withOrdinal ordinal).lastLine ≤ unit.metadata.endLine :=
    (Chunk.lastLine_le _).trans (agree.endLine_eq member).ge
  exact Chunk.liesWithin_of_split reaches fits

/-- The last line of a whole file is that of its last character. -/
theorem SourceFile.holdsPieces_of_wholeChunk? {file : SourceFile} {whole : ExtractedChunk}
    (made : file.wholeChunk? = some whole) (fits : whole.metadata.Fits) : whole.HoldsPieces := by
  intro ordinal size pieces
  have reaches : (whole.withOrdinal ordinal).lastLine ≤ whole.metadata.endLine := by
    rw [wholeChunk?] at made
    split at made
    · cases made
    · rename_i notBlank
      have filled : file.source.toList ≠ [] := fun empty => notBlank (by rw [empty]; rfl)
      cases made
      change 1 + Text.newlineCount _ ≤ max 1 (Text.lineCount _)
      rw [Text.lineCount_eq filled, Nat.add_comm]
      exact Nat.le_max_right _ _
  exact Chunk.liesWithin_of_split reaches fits

/-- Where a chunk is cut into several pieces, their lines are those of its windows and do not go back.
The pieces of a unit of a tree with the right rows, and those of a whole file, stay within the lines
of the unit, which only have to be numbers of 64 bits. -/
theorem Chunk.lines_follow_text :
    (∀ (chunk : Chunk) (size : WindowSize) (pieces : List Chunk),
      chunk.split size = .ok pieces → 1 < pieces.length →
      chunk.metadata.startLine + Text.newlineCount chunk.content.toList < 0x10000000000000000 →
      chunk.NumberedInOrder size pieces) ∧
    (∀ (units : List String) (file : SourceFile) (root : SyntaxTree),
      root.RowsAgree file.source → ∀ unit ∈ root.extract units file, unit.metadata.Fits →
      unit.HoldsPieces) ∧
    ∀ (file : SourceFile) (whole : ExtractedChunk),
      file.wholeChunk? = some whole → whole.metadata.Fits → whole.HoldsPieces := by
  refine ⟨fun chunk size pieces cut several lines => ?_, fun units file root agree unit member => ?_,
    fun file whole => SourceFile.holdsPieces_of_wholeChunk?⟩
  · obtain ⟨advances, ⟨_, rfl⟩ | ⟨_, rfl⟩⟩ := split_eq_ok_iff.mp cut
    · exact absurd several (Nat.lt_irrefl 1)
    · exact numberedInOrder_windows advances (Nat.lt_of_le_of_lt chunk.lastLine_le lines)
  · exact agree.holdsPieces member

namespace Small

/-- A class with empty lines in it, below a comment. -/
def gapped : SourceFile where
  absolutePath := ⟨"/r/A.java"⟩
  relativePath := "A.java"
  language := "java"
  source := "// é\n\nclass A \x7b\n\n\n\n\x7d\n"

def gappedTree : SyntaxTree :=
  .node "program" true ⟨0, 22, 0, 7⟩ none
    [ .node "line_comment" true ⟨0, 5, 0, 0⟩ none [],
      .node "class_declaration" true ⟨7, 21, 2, 6⟩ none [] ]

/-- The first and the last line of a chunk. -/
def lines (chunk : Chunk) : Nat × Nat :=
  (chunk.metadata.startLine, chunk.metadata.endLine)

/-- The fourth of five windows over the class has newlines only, and ends on the line it starts on. -/
theorem lines_follow_text_gapped :
    gappedTree.RowsAgree gapped.source ∧
      ∃ unit pieces whole, gappedTree.extract ["class_declaration"] gapped = [unit] ∧
        (unit.withOrdinal 0).split ⟨4, 1⟩ = .ok pieces ∧
        pieces.map lines = [(3, 3), (3, 3), (3, 3), (3, 3), (6, 7)] ∧
        (unit.withOrdinal 0).NumberedInOrder ⟨4, 1⟩ pieces ∧ unit.HoldsPieces ∧
        gapped.wholeChunk? = some whole ∧ whole.HoldsPieces := by
  have agree : gappedTree.RowsAgree gapped.source := by decide +kernel
  have cuts : (gappedTree.extract ["class_declaration"] gapped).map
      (fun unit => ((unit.withOrdinal 0).split ⟨4, 1⟩).map (·.map lines)) =
        [.ok [(3, 3), (3, 3), (3, 3), (3, 3), (6, 7)]] := by
    decide +kernel
  have small : ∀ unit ∈ gappedTree.extract ["class_declaration"] gapped, unit.metadata.Fits ∧
      unit.metadata.startLine + Text.newlineCount unit.content.toList < 0x10000000000000000 := by
    decide +kernel
  have filled : gapped.wholeChunk?.isSome = true := by decide +kernel
  have smallWhole : ∀ whole ∈ gapped.wholeChunk?, whole.metadata.Fits := by decide +kernel
  obtain ⟨whole, made⟩ := Option.isSome_iff_exists.mp filled
  obtain ⟨unit, found, done⟩ := List.map_eq_singleton_iff.mp cuts
  have member : unit ∈ gappedTree.extract ["class_declaration"] gapped :=
    found ▸ List.mem_singleton_self unit
  obtain ⟨numbered, held, heldWhole⟩ := Chunk.lines_follow_text
  cases cut : (unit.withOrdinal 0).split ⟨4, 1⟩ with
  | error failure =>
      rw [cut] at done
      cases done
  | ok pieces =>
      rw [cut] at done
      have shown : pieces.map lines = [(3, 3), (3, 3), (3, 3), (3, 3), (6, 7)] := Except.ok.inj done
      have several : 1 < pieces.length := by
        rw [← List.length_map (f := lines), shown]
        decide
      exact ⟨agree, unit, pieces, whole, found, cut, shown,
        numbered _ _ _ cut several (small unit member).2,
        held _ _ _ agree unit member (small unit member).1, made,
        heldWhole _ _ made (smallWhole whole made)⟩

end Small

end SourceHarvest
