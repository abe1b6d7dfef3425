import SourceHarvest.Proofs.Syntax.Extraction
import SourceHarvest.Proofs.Text.Bytes

/-!
# Rows of a syntax tree

A construct bears the rows of its ends beside their byte offsets.  The rows are right if each
is the number of newline bytes before its offset.  Then a unit of the tree ends as many lines
below its start as its text has newlines.
-/

namespace SourceHarvest

namespace Text

/-- The row of a byte offset: the number of newline bytes before it. -/
def rowAt (source : String) (offset : Nat) : Nat :=
  ((utf8Bytes source).take offset).count 10

/-- No other character has the byte of the newline in it. -/
theorem count_utf8EncodeChar (c : Char) : (String.utf8EncodeChar c).count 10 = [c].count '\n' := by
  by_cases newline : c = '\n'
  · subst newline
    decide
  · have foreign : (10 : UInt8) ∉ String.utf8EncodeChar c := by
      intro member
      have value := toNat_eq_of_mem_utf8EncodeChar member (by decide)
      exact newline (Char.toNat_inj.mp value)
    rw [List.count_eq_zero.mpr foreign, List.count_singleton]
    simp [newline]

/-- The newline bytes of a text are its newlines. -/
theorem count_flatMap_utf8EncodeChar (text : List Char) :
    (text.flatMap String.utf8EncodeChar).count 10 = newlineCount text := by
  induction text with
  | nil => rfl
  | cons c rest inductionHypothesis =>
      rw [List.flatMap_cons, List.count_append, count_utf8EncodeChar, inductionHypothesis]
      exact (newlineCount_append [c] rest).symm

/-- Behind the first part of a text the row is the number of newlines in that part. -/
theorem rowAt_byteSize {source : String} {before after : List Char}
    (parts : source.toList = before ++ after) :
    rowAt source (byteSize before) = newlineCount before := by
  rw [rowAt, utf8Bytes_eq, parts, List.flatMap_append, ← length_flatMap_utf8EncodeChar,
    List.take_left, count_flatMap_utf8EncodeChar]

end Text

/-- The rows of a span are those of its ends in a source. -/
structure Span.RowsAgree (span : Span) (source : String) : Prop where
  startRow : span.startRow = Text.rowAt source span.startByte
  endRow : span.endRow = Text.rowAt source span.endByte

instance (span : Span) (source : String) : Decidable (span.RowsAgree source) :=
  decidable_of_iff (span.startRow = Text.rowAt source span.startByte ∧
      span.endRow = Text.rowAt source span.endByte)
    ⟨fun ⟨startRow, endRow⟩ => ⟨startRow, endRow⟩, fun ⟨startRow, endRow⟩ => ⟨startRow, endRow⟩⟩

/-- A span ends as many rows below its start as the text that it covers has newlines. -/
theorem Span.RowsAgree.endRow_eq {span : Span} {source text : String}
    (agree : span.RowsAgree source) (covered : span.Covers source text) :
    span.endRow = span.startRow + Text.newlineCount text.toList := by
  obtain ⟨before, after, parts, start, stop⟩ := covered
  have starts : source.toList = before ++ (text.toList ++ after) := by
    rw [parts, List.append_assoc]
  rw [agree.startRow, agree.endRow, ← start, ← stop, Text.rowAt_byteSize starts,
    Text.rowAt_byteSize parts, Text.newlineCount_append]

namespace SyntaxTree

/-- The rows of a construct and of all inside it agree with the newlines of a source. -/
def RowsAgree (source : String) (root : SyntaxTree) : Prop :=
  ∀ tree ∈ root.preorder, tree.span.RowsAgree source

instance (source : String) (root : SyntaxTree) : Decidable (root.RowsAgree source) :=
  inferInstanceAs (Decidable (∀ tree ∈ root.preorder, tree.span.RowsAgree source))

theorem mem_preorder_of_at? {root tree : SyntaxTree} {address : List Nat}
    (found : root.at? address = some tree) : tree ∈ root.preorder := by
  rw [← filterMap_at?_addresses]
  exact List.mem_filterMap.mpr ⟨address, mem_addresses_iff.mpr ⟨tree, found⟩, found⟩

/-- Where the rows are right, a unit ends as many lines below its start as its text has newlines. -/
theorem RowsAgree.endLine_eq {units : List String} {file : SourceFile} {root : SyntaxTree}
    (agree : root.RowsAgree file.source) {unit : ExtractedChunk}
    (member : unit ∈ root.extract units file) :
    unit.metadata.endLine =
      unit.metadata.startLine + Text.newlineCount unit.content.toList := by
  obtain ⟨_, tree, unitAt, describes⟩ := exists_unitAt_of_mem_extract member
  have rows := (agree tree (mem_preorder_of_at? unitAt.found)).endRow_eq unitAt.covered
  rw [describes.startLine, describes.endLine, rows]
  exact Nat.add_right_comm _ _ _

end SyntaxTree

end SourceHarvest
