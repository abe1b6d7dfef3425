import SourceHarvest.Chunk.Basic
import SourceHarvest.Failure.Basic

/-!
# Windows over long chunks

A chunk that is longer than a greatest size is cut into windows of that size.  Each
window starts so far behind the one before that the two share a fixed number of
characters, and the last window ends where the chunk ends.
-/

namespace SourceHarvest

/-- A greatest size and an overlap of windows, in characters. -/
structure WindowSize where
  greatest : Nat
  overlap : Nat
deriving DecidableEq, Repr

namespace WindowSize

/-- Windows of this size get ahead. -/
def advances (size : WindowSize) : Bool :=
  0 < size.greatest && size.overlap < size.greatest

/-- How far one window starts behind the one before. -/
def stride (size : WindowSize) : Nat :=
  size.greatest - size.overlap

/-- How many windows cover a longer text. -/
def count (size : WindowSize) (length : Nat) : Nat :=
  (length - size.overlap + size.stride - 1) / size.stride

end WindowSize

namespace Chunk

/-- The number of the line so many lines further on.  Line numbers have 64 bits. -/
def lineAfter (line count : Nat) : Nat :=
  (line + count) % 0x10000000000000000

/-- A window of a chunk, by the number of newlines before it and the text from its start on.
Its lines follow from the newlines before it and in it; those at its end belong to no
further line. -/
def windowAt (chunk : Chunk) (size : WindowSize) (index before : Nat) (rest : List Char) : Chunk :=
  let inside := rest.take size.greatest
  let startLine := lineAfter chunk.metadata.startLine before
  let endLine := lineAfter startLine (Text.newlineCount (Text.dropFinalNewlines inside))
  { id := chunk.id ++ "_" ++ toString index
    content := String.ofList inside
    metadata := { chunk.metadata with startLine, endLine } }

/-- One window of a chunk. -/
def window (chunk : Chunk) (size : WindowSize) (index : Nat) : Chunk :=
  let text := chunk.content.toList
  chunk.windowAt size index (Text.newlineCount (text.take (index * size.stride)))
    (text.drop (index * size.stride))

/-- So many windows of a chunk from one on, in one walk over the text. -/
def windowsFrom (chunk : Chunk) (size : WindowSize) : Nat → Nat → Nat → List Char → List Chunk
  | 0, _, _, _ => []
  | count + 1, index, before, rest =>
      chunk.windowAt size index before rest ::
        windowsFrom chunk size count (index + 1)
          (before + Text.newlineCount (rest.take size.stride)) (rest.drop size.stride)

/-- The walk gives the windows one by one. -/
theorem windowsFrom_eq (chunk : Chunk) (size : WindowSize) (count index : Nat) :
    chunk.windowsFrom size count index
        (Text.newlineCount (chunk.content.toList.take (index * size.stride)))
        (chunk.content.toList.drop (index * size.stride)) =
      (List.range' index count).map (chunk.window size) := by
  induction count generalizing index with
  | zero => simp [windowsFrom]
  | succ count inductionHypothesis =>
      have next : (index + 1) * size.stride = index * size.stride + size.stride :=
        Nat.succ_mul index size.stride
      rw [List.range'_succ, List.map_cons, ← inductionHypothesis, next, List.take_add,
        Text.newlineCount_append, ← List.drop_drop]
      rfl

/-- Cut a chunk into windows; one that is short enough stays as it is. -/
def split (chunk : Chunk) (size : WindowSize) : Except Failure (List Chunk) :=
  if size.advances then
    let text := chunk.content.toList
    if text.length ≤ size.greatest then .ok [chunk]
    else .ok (chunk.windowsFrom size (size.count text.length) 0 0 text)
  else .error (Failure.ofCause (.invalidSplit size.greatest size.overlap))

/-- A long chunk is cut into its windows in their order. -/
theorem split_eq_windows (chunk : Chunk) (size : WindowSize) (advances : size.advances = true)
    (long : size.greatest < chunk.content.toList.length) :
    chunk.split size =
      .ok ((List.range (size.count chunk.content.toList.length)).map (chunk.window size)) := by
  have walk := windowsFrom_eq chunk size (size.count chunk.content.toList.length) 0
  simp only [Nat.zero_mul, List.take_zero, List.drop_zero] at walk
  rw [List.range_eq_range', ← walk]
  simp [split, advances, Nat.not_le_of_lt long, Text.newlineCount]

end Chunk

end SourceHarvest
