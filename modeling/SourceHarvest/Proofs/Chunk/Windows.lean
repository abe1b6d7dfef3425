import SourceHarvest.Chunk.Windows
import Mathlib.Algebra.Order.Floor.Div

/-!
# What the windows of a chunk show

A window starts before the overlap with the one before it would reach the end of the
text.  So the windows together show the whole text, none is superfluous, and the text
comes back when every window but the first leaves its overlap out.
-/

namespace SourceHarvest

namespace WindowSize

theorem advances_iff {size : WindowSize} : size.advances = true ↔ size.overlap < size.greatest := by
  rw [advances, Bool.and_eq_true, decide_eq_true_eq, decide_eq_true_eq]
  omega

section Advances

variable {size : WindowSize} (advances : size.overlap < size.greatest)

include advances

theorem stride_pos : 0 < size.stride := by
  rw [stride]
  omega

theorem stride_add_overlap : size.stride + size.overlap = size.greatest := by
  rw [stride]
  omega

/-- There is a further window as long as the text goes on behind what the one before shows. -/
theorem lt_count_iff (index length : Nat) :
    index < size.count length ↔ index * size.stride + size.overlap < length := by
  have bound : size.count length ≤ index ↔ length - size.overlap ≤ size.stride * index :=
    ceilDiv_le_iff_le_mul (stride_pos advances)
  rw [Nat.mul_comm] at bound
  omega

/-- A window is the last one where the text ends within it. -/
theorem succ_lt_count_iff (index length : Nat) :
    index + 1 < size.count length ↔ index * size.stride + size.greatest < length := by
  rw [lt_count_iff advances, Nat.succ_mul]
  have whole := stride_add_overlap advances
  omega

end Advances

end WindowSize

namespace Chunk

section Window

variable (chunk : Chunk) (size : WindowSize) (index : Nat)

/-- A window shows the characters from its start on, as many as fit or as there are. -/
theorem content_window : (chunk.window size index).content.toList =
    (chunk.content.toList.drop (index * size.stride)).take size.greatest :=
  String.toList_ofList

theorem length_content_window : (chunk.window size index).content.toList.length =
    min size.greatest (chunk.content.toList.length - index * size.stride) := by
  rw [content_window, List.length_take, List.length_drop]

/-- A window shows the characters between its ends. -/
theorem content_window_eq_slice : (chunk.window size index).content.toList =
    (chunk.content.toList.take
      (min (index * size.stride + size.greatest) chunk.content.toList.length)).drop
        (index * size.stride) := by
  rw [content_window, ← List.take_take, List.take_length, List.drop_take, Nat.add_sub_cancel_left]

end Window

/-- What pieces show together, where every piece but the first repeats so many characters. -/
def rejoin (overlap : Nat) : List Chunk → List Char
  | [] => []
  | first :: rest =>
      first.content.toList ++ rest.flatMap fun piece => piece.content.toList.drop overlap

theorem rejoin_append_singleton {overlap : Nat} {pieces : List Chunk} (filled : pieces ≠ [])
    (last : Chunk) : rejoin overlap (pieces ++ [last]) =
      rejoin overlap pieces ++ last.content.toList.drop overlap := by
  cases pieces with
  | nil => exact absurd rfl filled
  | cons first rest => simp [rejoin]

/-- The windows up to one show the text up to the end of that one. -/
theorem rejoin_windows {size : WindowSize} (advances : size.overlap < size.greatest)
    (chunk : Chunk) (index : Nat) :
    rejoin size.overlap ((List.range (index + 1)).map (chunk.window size)) =
      chunk.content.toList.take (index * size.stride + size.greatest) := by
  induction index with
  | zero => simp [rejoin, content_window]
  | succ index inductionHypothesis =>
      have whole := WindowSize.stride_add_overlap advances
      have behind : (index + 1) * size.stride + size.overlap =
          index * size.stride + size.greatest := by
        rw [Nat.succ_mul]
        omega
      have further : (index + 1) * size.stride + size.greatest =
          index * size.stride + size.greatest + size.stride := by
        rw [Nat.succ_mul]
        omega
      have earlier : (List.range (index + 1)).map (chunk.window size) ≠ [] := by simp
      have shown : (chunk.window size (index + 1)).content.toList.drop size.overlap =
          (chunk.content.toList.drop (index * size.stride + size.greatest)).take size.stride := by
        rw [content_window, List.drop_take, List.drop_drop, behind, WindowSize.stride]
      rw [List.range_succ, List.map_append, List.map_singleton, rejoin_append_singleton earlier,
        inductionHypothesis, shown, further, ← List.take_add]

/-- The piece is one window of a chunk: the characters between the ends of the window, under
the id of the chunk with the number of the window, and otherwise what is known of the chunk. -/
structure WindowOf (chunk : Chunk) (size : WindowSize) (index : Nat) (piece : Chunk) : Prop where
  id : piece.id = chunk.id ++ "_" ++ toString index
  content : piece.content.toList =
    (chunk.content.toList.take
      (min (index * size.stride + size.greatest) chunk.content.toList.length)).drop
        (index * size.stride)
  metadata : ∃ startLine endLine, piece.metadata = { chunk.metadata with startLine, endLine }

theorem windowOf_window (chunk : Chunk) (size : WindowSize) (index : Nat) :
    chunk.WindowOf size index (chunk.window size index) where
  id := rfl
  content := content_window_eq_slice chunk size index
  metadata := ⟨_, _, rfl⟩

/-- The pieces are the windows of a chunk, which lose and invent nothing. -/
structure CutInto (chunk : Chunk) (size : WindowSize) (pieces : List Chunk) : Prop where
  length : pieces.length = (chunk.content.toList.length - size.overlap) ⌈/⌉ size.stride
  window : ∀ (index : Nat) (piece : Chunk), pieces[index]? = some piece →
    chunk.WindowOf size index piece
  full : ∀ (index : Nat) (piece : Chunk), pieces[index]? = some piece →
    index + 1 < pieces.length → piece.content.toList.length = size.greatest
  last : ∃ final : Chunk, pieces.getLast? = some final ∧
    size.overlap < final.content.toList.length ∧ final.content.toList.length ≤ size.greatest ∧
      (pieces.length - 1) * size.stride + final.content.toList.length =
        chunk.content.toList.length
  rejoined : rejoin size.overlap pieces = chunk.content.toList

/-- Where windows get ahead, a short chunk is its own piece, and a longer one is cut into its
windows. -/
theorem split_eq_ok_iff {chunk : Chunk} {size : WindowSize} {pieces : List Chunk} :
    chunk.split size = .ok pieces ↔ size.overlap < size.greatest ∧
      (chunk.content.toList.length ≤ size.greatest ∧ pieces = [chunk] ∨
        size.greatest < chunk.content.toList.length ∧
          pieces = (List.range (size.count chunk.content.toList.length)).map
            (chunk.window size)) := by
  by_cases advances : size.overlap < size.greatest
  · have runs := WindowSize.advances_iff.mpr advances
    by_cases long : size.greatest < chunk.content.toList.length
    · rw [split_eq_windows chunk size runs long]
      simp [advances, long, Nat.not_le.mpr long, eq_comm]
    · have alone : chunk.split size = .ok [chunk] := by
        rw [split, if_pos runs]
        exact if_pos (Nat.not_lt.mp long)
      rw [alone]
      simp [advances, long, Nat.not_lt.mp long, eq_comm]
  · rw [split, if_neg fun runs => advances (WindowSize.advances_iff.mp runs)]
    simp [advances]

/-- The windows of a chunk are in their places. -/
theorem window_of_getElem? {chunk : Chunk} {size : WindowSize} {count index : Nat} {piece : Chunk}
    (found : ((List.range count).map (chunk.window size))[index]? = some piece) :
    chunk.window size index = piece := by
  obtain ⟨_, here⟩ := List.getElem?_eq_some_iff.mp found
  rwa [List.getElem_map, List.getElem_range] at here

/-- A long chunk is cut into its windows. -/
theorem cutInto_windows {size : WindowSize} (advances : size.overlap < size.greatest)
    {chunk : Chunk} (long : size.greatest < chunk.content.toList.length) :
    chunk.CutInto size
      ((List.range (size.count chunk.content.toList.length)).map (chunk.window size)) := by
  have positive : 0 < size.count chunk.content.toList.length :=
    (WindowSize.lt_count_iff advances _ _).mpr (by omega)
  obtain ⟨final, count⟩ := Nat.exists_eq_succ_of_ne_zero (Nat.ne_of_gt positive)
  have finalStarts : final * size.stride + size.overlap < chunk.content.toList.length :=
    (WindowSize.lt_count_iff advances _ _).mp (by omega)
  have finalEnds : ¬ final * size.stride + size.greatest < chunk.content.toList.length :=
    fun goesOn => Nat.ne_of_lt ((WindowSize.succ_lt_count_iff advances _ _).mpr goesOn) count.symm
  have finalLength := length_content_window chunk size final
  constructor
  case length => rw [List.length_map, List.length_range, WindowSize.count, Nat.ceilDiv_eq_add_pred_div]
  case window =>
    intro index piece found
    obtain rfl := window_of_getElem? found
    exact windowOf_window chunk size index
  case full =>
    intro index piece found further
    obtain rfl := window_of_getElem? found
    rw [List.length_map, List.length_range, WindowSize.succ_lt_count_iff advances] at further
    rw [length_content_window]
    omega
  case last =>
    refine ⟨chunk.window size final, ?_, by omega, by omega, ?_⟩
    · rw [count, List.range_succ, List.map_append, List.map_singleton, List.getLast?_concat]
    · rw [List.length_map, List.length_range, count, Nat.succ_sub_one]
      omega
  case rejoined =>
    rw [count, rejoin_windows advances, List.take_of_length_le (Nat.not_lt.mp finalEnds)]

end Chunk

end SourceHarvest
