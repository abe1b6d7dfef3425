import SourceHarvest.Proofs.Chunk.Windows
import SourceHarvest.Proofs.Text.Slices

/-!
# Cutting a chunk by byte offsets

A text is stored as bytes, so a window over its characters is cut out between two offsets,
which a table of the characters gives.  Here a chunk is cut in this way, with a check at
every step that can go wrong: a place that the table does not have, an offset within a
character, a difference below zero, a line number that 64 bits do not hold.  No check ever
fails, and the windows are those that are counted in advance.
-/

namespace SourceHarvest

namespace Text

/-- The byte offsets of the characters of a text that starts at an offset, and at last the
offset of its end. -/
def boundariesFrom (offset : Nat) : List Char → List Nat
  | [] => [offset]
  | c :: rest => offset :: boundariesFrom (offset + c.utf8Size) rest

/-- The table has an entry for each character and one for the end. -/
theorem getElem?_boundariesFrom {offset : Nat} {text : List Char} {index : Nat}
    (inside : index ≤ text.length) :
    (boundariesFrom offset text)[index]? = some (offset + byteSize (text.take index)) := by
  induction text generalizing offset index with
  | nil =>
      obtain rfl := Nat.le_zero.mp inside
      rfl
  | cons c rest inductionHypothesis =>
      cases index with
      | zero => rfl
      | succ index =>
          rw [boundariesFrom, List.getElem?_cons_succ,
            inductionHypothesis (Nat.le_of_succ_le_succ inside), List.take_succ_cons, byteSize_cons,
            Nat.add_assoc]

/-- Between two entries of the table there is a slice. -/
theorem slice?_take {text : List Char} {start stop : Nat} (ordered : start ≤ stop) :
    slice? text (byteSize (text.take start)) (byteSize (text.take stop)) =
      some ((text.drop start).take (stop - start)) := by
  have shown : text.take start ++ (text.drop start).take (stop - start) = text.take stop := by
    rw [← List.take_add, Nat.add_sub_cancel' ordered]
  have parts := slice?_append (text.take start) ((text.drop start).take (stop - start))
    (text.drop stop)
  rwa [shown, List.take_append_drop] at parts

end Text

/-- The difference of two numbers, if it is not below zero. -/
def difference? (left right : Nat) : Option Nat :=
  if right ≤ left then some (left - right) else none

/-- The sum of two numbers, if 64 bits hold it. -/
def sum? (left right : Nat) : Option Nat :=
  if left + right < 0x10000000000000000 then some (left + right) else none

namespace Chunk

/-- The window between two characters of a chunk, cut out by their offsets. -/
def pieceAt? (chunk : Chunk) (table : List Nat) (start stop index : Nat) : Option Chunk := do
  let first ← table[start]?
  let last ← table[stop]?
  let before ← Text.slice? chunk.content.toList 0 first
  let inside ← Text.slice? chunk.content.toList first last
  let startLine ← sum? chunk.metadata.startLine (Text.newlineCount before)
  let endLine ← sum? startLine (Text.newlineCount (Text.dropFinalNewlines inside))
  pure
    { id := chunk.id ++ "_" ++ toString index
      content := String.ofList inside
      metadata := { chunk.metadata with startLine, endLine } }

/-- The windows from one on, up to the first that ends where the text does. -/
def piecesFrom? (chunk : Chunk) (table : List Nat) (greatest stride length : Nat)
    (advances : 0 < stride) (start index : Nat) : Option (List Chunk) :=
  let stop := min (start + greatest) length
  (chunk.pieceAt? table start stop index).bind fun piece =>
    if stop = length then some [piece]
    else
      (piecesFrom? chunk table greatest stride length advances (start + stride) (index + 1)).map
        (piece :: ·)
termination_by length - start
decreasing_by omega

/-- Cut a chunk into windows by byte offsets. -/
def split? (chunk : Chunk) (size : WindowSize) : Option (Except Failure (List Chunk)) :=
  if size.greatest = 0 ∨ size.greatest ≤ size.overlap then
    some (.error (Failure.ofCause (.invalidSplit size.greatest size.overlap)))
  else
    let text := chunk.content.toList
    if text.length ≤ size.greatest then some (.ok [chunk])
    else do
      let stride ← difference? size.greatest size.overlap
      let _ ← difference? text.length size.overlap
      if advances : 0 < stride then
        Except.ok <$> chunk.piecesFrom? (Text.boundariesFrom 0 text) size.greatest stride text.length
          advances 0 0
      else none

/-- The newlines before a window and within it are among those of the text. -/
theorem newlineCount_window_le (text : List Char) (start width : Nat) :
    Text.newlineCount (text.take start) +
        Text.newlineCount (Text.dropFinalNewlines ((text.drop start).take width)) ≤
      Text.newlineCount text := by
  obtain ⟨count, dropped⟩ := Text.dropFinalNewlines_append ((text.drop start).take width)
  have within := Text.newlineCount_append
    (Text.dropFinalNewlines ((text.drop start).take width)) (List.replicate count '\n')
  have parts := Text.newlineCount_append ((text.drop start).take width)
    ((text.drop start).drop width)
  have whole := Text.newlineCount_append (text.take start) (text.drop start)
  rw [dropped] at within
  rw [List.take_append_drop] at parts whole
  omega

section Lines

variable {chunk : Chunk}
  (lines : chunk.metadata.startLine + Text.newlineCount chunk.content.toList < 0x10000000000000000)

include lines

/-- A window is cut out where it is counted to be. -/
theorem pieceAt?_eq_window (size : WindowSize) {index : Nat}
    (inside : index * size.stride ≤ chunk.content.toList.length) :
    chunk.pieceAt? (Text.boundariesFrom 0 chunk.content.toList) (index * size.stride)
        (min (index * size.stride + size.greatest) chunk.content.toList.length) index =
      some (chunk.window size index) := by
  generalize starts : index * size.stride = start at inside
  generalize stops : min (start + size.greatest) chunk.content.toList.length = stop
  have ordered : start ≤ stop := by omega
  have before : Text.slice? chunk.content.toList 0
      (Text.byteSize (chunk.content.toList.take start)) = some (chunk.content.toList.take start) :=
    Text.slice?_take (Nat.zero_le start)
  have shown : (chunk.content.toList.drop start).take (stop - start) =
      (chunk.content.toList.drop start).take size.greatest := by
    rw [← stops, List.take_eq_take_iff, List.length_drop]
    omega
  have fewer := newlineCount_window_le chunk.content.toList start size.greatest
  have fits : chunk.metadata.startLine + Text.newlineCount (chunk.content.toList.take start) <
      0x10000000000000000 := by
    omega
  rw [pieceAt?, Text.getElem?_boundariesFrom inside, Text.getElem?_boundariesFrom (by omega)]
  simp only [Option.bind_eq_bind, Option.bind_some, Nat.zero_add, before,
    Text.slice?_take ordered, shown]
  rw [sum?, if_pos (by omega), Option.bind_some, sum?, if_pos (by omega), Option.bind_some, window,
    windowAt, lineAfter, lineAfter, starts, Nat.mod_eq_of_lt fits, Nat.mod_eq_of_lt (by omega)]
  rfl

/-- The loop cuts out the windows that are left. -/
theorem piecesFrom?_eq_windows {size : WindowSize} (advances : size.overlap < size.greatest)
    (index remaining : Nat)
    (total : size.count chunk.content.toList.length = index + (remaining + 1)) :
    chunk.piecesFrom? (Text.boundariesFrom 0 chunk.content.toList) size.greatest size.stride
        chunk.content.toList.length (WindowSize.stride_pos advances) (index * size.stride) index =
      some ((List.range' index (remaining + 1)).map (chunk.window size)) := by
  have starts : index * size.stride + size.overlap < chunk.content.toList.length :=
    (WindowSize.lt_count_iff advances _ _).mp (by omega)
  have goesOn := WindowSize.succ_lt_count_iff advances index chunk.content.toList.length
  induction remaining generalizing index with
  | zero =>
      rw [piecesFrom?, pieceAt?_eq_window lines size (by omega), Option.bind_some, if_pos (by omega)]
      rfl
  | succ remaining inductionHypothesis =>
      have later := inductionHypothesis (index + 1) (by omega)
        ((WindowSize.lt_count_iff advances _ _).mp (by omega))
        (WindowSize.succ_lt_count_iff advances _ _)
      rw [Nat.succ_mul] at later
      rw [piecesFrom?, pieceAt?_eq_window lines size (by omega), Option.bind_some, if_neg (by omega),
        later]
      rfl

/-- No check fails, and the chunk is cut as counted in advance. -/
theorem split?_eq_some (size : WindowSize) : chunk.split? size = some (chunk.split size) := by
  by_cases advances : size.overlap < size.greatest
  · have runs := WindowSize.advances_iff.mpr advances
    rw [split?, if_neg (by omega)]
    by_cases short : chunk.content.toList.length ≤ size.greatest
    · simp only [split, runs, if_pos short, if_true]
    · have long := Nat.lt_of_not_le short
      have positive : 0 < size.count chunk.content.toList.length :=
        (WindowSize.lt_count_iff advances _ _).mpr (by omega)
      have cut := piecesFrom?_eq_windows lines advances 0
        (size.count chunk.content.toList.length - 1) (by omega)
      rw [Nat.zero_mul, Nat.sub_add_cancel positive] at cut
      have stride : difference? size.greatest size.overlap = some size.stride :=
        if_pos (Nat.le_of_lt advances)
      have beyond : difference? chunk.content.toList.length size.overlap =
          some (chunk.content.toList.length - size.overlap) :=
        if_pos (Nat.le_of_lt (Nat.lt_trans advances long))
      rw [split_eq_windows chunk size runs long, List.range_eq_range']
      simp only [if_neg short, stride, beyond, Option.bind_eq_bind, Option.bind_some,
        dif_pos (WindowSize.stride_pos advances), cut]
      rfl
  · have stuck : ¬ size.advances = true := fun runs => advances (WindowSize.advances_iff.mp runs)
    rw [split?, if_pos (.inr (Nat.not_lt.mp advances)), split, if_neg stuck]

end Lines

/-- Sizes of windows that would not get ahead are refused.  Otherwise a short chunk stays as it
is, a longer one is cut into windows that lose and invent nothing, and the offsets that it is
cut at are always to be had. -/
theorem split_exact (chunk : Chunk) (size : WindowSize) :
    (size.greatest = 0 ∨ size.greatest ≤ size.overlap →
      chunk.split size =
        .error (Failure.ofCause (.invalidSplit size.greatest size.overlap))) ∧
    (0 < size.greatest → size.overlap < size.greatest →
      (chunk.content.toList.length ≤ size.greatest → chunk.split size = .ok [chunk]) ∧
      (size.greatest < chunk.content.toList.length →
        ∃ pieces, chunk.split size = .ok pieces ∧ chunk.CutInto size pieces)) ∧
    (chunk.metadata.startLine + Text.newlineCount chunk.content.toList < 0x10000000000000000 →
      chunk.split? size = some (chunk.split size)) := by
  refine ⟨fun stuck => ?_, fun _ advances => ⟨fun short => ?_, fun long => ?_⟩,
    fun lines => split?_eq_some lines size⟩
  · have refused : ¬ size.advances = true := by
      rw [WindowSize.advances_iff]
      omega
    rw [split, if_neg refused]
  · rw [split, if_pos (WindowSize.advances_iff.mpr advances)]
    exact if_pos short
  · exact ⟨_, split_eq_windows chunk size (WindowSize.advances_iff.mpr advances) long,
      cutInto_windows advances long⟩

end Chunk

namespace Small

/-- Seven characters of one to four bytes, on two lines. -/
def manyBytes : Chunk where
  id := "7"
  content := "aä→𝄞\nbc"
  metadata :=
    { absolutePath := ⟨"/r/A.java"⟩
      relativePath := "A.java"
      scopeName := none
      containerName := none
      memberName := none
      kind := .file
      language := "java"
      startLine := 3
      endLine := 4
      contentHash := "" }

/-- Windows of four characters, one of them shared, cover the seven. -/
theorem split_exact_manyBytes :
    manyBytes.split ⟨4, 4⟩ = .error (Failure.ofCause (.invalidSplit 4 4)) ∧
    manyBytes.split ⟨7, 1⟩ = .ok [manyBytes] ∧
    (∃ pieces, manyBytes.split ⟨4, 1⟩ = .ok pieces ∧ manyBytes.CutInto ⟨4, 1⟩ pieces ∧
      pieces.map (·.content) = ["aä→𝄞", "𝄞\nbc"]) ∧
    manyBytes.split? ⟨4, 1⟩ = some (manyBytes.split ⟨4, 1⟩) := by
  have length : manyBytes.content.toList.length = 7 := by decide +kernel
  have lines : manyBytes.metadata.startLine + Text.newlineCount manyBytes.content.toList <
      0x10000000000000000 := by
    decide +kernel
  obtain ⟨refused, -, -⟩ := Chunk.split_exact manyBytes ⟨4, 4⟩
  obtain ⟨-, whole, -⟩ := Chunk.split_exact manyBytes ⟨7, 1⟩
  obtain ⟨-, cut, checked⟩ := Chunk.split_exact manyBytes ⟨4, 1⟩
  obtain ⟨pieces, done, windows⟩ := (cut (by decide) (by decide)).2 (by rw [length]; decide)
  have contents : (manyBytes.split ⟨4, 1⟩).map (·.map (·.content)) =
      .ok ["aä→𝄞", "𝄞\nbc"] := by
    decide +kernel
  rw [done] at contents
  exact ⟨refused (.inr (by decide)), (whole (by decide) (by decide)).1 length.le,
    ⟨pieces, done, windows, Except.ok.inj contents⟩, checked lines⟩

end Small

end SourceHarvest
