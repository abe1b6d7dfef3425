import SourceHarvest.Proofs.Ingestion.Keys
import SourceHarvest.Proofs.Ingestion.Protocol

/-!
# Chunks within their limits

A window has a greatest number of characters, a chunk a greatest number of tokens, one for each four
bytes.  No character has more than four bytes, so no window has more tokens than characters fit into
it.  Where the second limit is not below the first, no window is dropped, and the text of every unit
comes back from the chunks that are kept.
-/

namespace SourceHarvest

/-! ## Characters and tokens -/

/-- A text has no more tokens than characters. -/
theorem estimateTokens_le_length (text : String) : estimateTokens text ≤ text.toList.length := by
  have bytes := (utf8ByteSize_bounds text).2
  rw [estimateTokens]
  omega

/-! ## Windows -/

namespace Chunk

variable {chunk : Chunk} {size : WindowSize} {pieces : List Chunk}

/-- The pieces are the windows over a chunk: the chunk itself where it is short enough, and otherwise
windows that lose and invent nothing. -/
structure WindowedInto (size : WindowSize) (chunk : Chunk) (pieces : List Chunk) : Prop where
  split : chunk.split size = .ok pieces
  whole : chunk.content.toList.length ≤ size.greatest → pieces = [chunk]
  cut : size.greatest < chunk.content.toList.length → chunk.CutInto size pieces
  rejoined : rejoin size.overlap pieces = chunk.content.toList

theorem windowedInto_of_split (advances : size.overlap < size.greatest)
    (done : chunk.split size = .ok pieces) : WindowedInto size chunk pieces := by
  obtain ⟨_, ⟨short, rfl⟩ | ⟨long, rfl⟩⟩ := split_eq_ok_iff.mp done
  · refine ⟨done, fun _ => rfl, fun exceeds => absurd exceeds (Nat.not_lt.mpr short), ?_⟩
    rw [rejoin, List.flatMap_nil, List.append_nil]
  · have windows := cutInto_windows advances long
    exact ⟨done, fun short => absurd short (Nat.not_le.mpr long), fun _ => windows,
      windows.rejoined⟩

/-- No piece has more characters than a window can have. -/
theorem length_le_of_mem_pieces (done : chunk.split size = .ok pieces) {piece : Chunk}
    (member : piece ∈ pieces) : piece.content.toList.length ≤ size.greatest := by
  rcases mem_pieces done member with ⟨fits, rfl⟩ | ⟨index, _, rfl⟩
  · exact fits
  · rw [length_content_window]
    exact Nat.min_le_left _ _

end Chunk

/-! ## Files -/

namespace BoundedChunks

/-- What is kept of windows: those within the limits in their order, and all of them where as many
tokens are admitted as characters. -/
structure KeptOf (configuration : Configuration) (cuts : List (List Chunk)) (bounded : BoundedChunks) :
    Prop where
  short : ∀ chunk ∈ bounded.chunks, chunk.content.toList.length ≤ configuration.window.greatest
  light : ∀ chunk ∈ bounded.chunks, estimateTokens chunk.content ≤ configuration.hardTokenLimit
  ordered : bounded.chunks.Sublist cuts.flatten
  counted : bounded.chunks.length + bounded.dropped = cuts.flatten.length
  complete : configuration.window.greatest ≤ configuration.hardTokenLimit →
    bounded.dropped = 0 ∧ bounded.chunks = cuts.flatten ∧ ∀ pieces ∈ cuts, pieces <:+: bounded.chunks

variable {configuration : Configuration} {path : Path} {relativePath : String}
  {parsed : ParsedSource} {chunks : List Chunk} {cuts : List (List Chunk)}

/-- Where no chunk has too many tokens, none is dropped. -/
theorem bound_eq_self {limit : Nat} (light : ∀ chunk ∈ chunks, estimateTokens chunk.content ≤ limit) :
    bound limit chunks = ⟨chunks, 0⟩ := by
  have kept : (chunks.filter fun chunk => estimateTokens chunk.content ≤ limit) = chunks :=
    List.filter_eq_self.mpr fun chunk member => decide_eq_true (light chunk member)
  simp only [bound, kept, Nat.sub_self]

theorem keptOf_bound {parents : List Chunk}
    (each : List.Forall₂ (fun chunk pieces => chunk.split configuration.window = .ok pieces)
      parents cuts) :
    (bound configuration.hardTokenLimit cuts.flatten).KeptOf configuration cuts := by
  have narrow {chunk : Chunk} (member : chunk ∈ cuts.flatten) :
      chunk.content.toList.length ≤ configuration.window.greatest := by
    obtain ⟨parent, _, pieces, done, piece⟩ := Chunk.exists_split_of_mem_flatten each member
    exact Chunk.length_le_of_mem_pieces done piece
  refine
    { short := fun chunk member => narrow (List.mem_of_mem_filter member)
      light := fun chunk member => of_decide_eq_true (List.mem_filter.mp member).2
      ordered := List.filter_sublist
      counted := length_bound _ _
      complete := fun roomy => ?_ }
  have all := bound_eq_self fun chunk (member : chunk ∈ cuts.flatten) =>
    (estimateTokens_le_length chunk.content).trans ((narrow member).trans roomy)
  rw [all]
  exact ⟨rfl, rfl, fun pieces member => List.infix_of_mem_flatten member⟩

/-- Where windows get ahead, the units of a file are cut into windows, and those within the limits are
kept.  All are kept where as many tokens are admitted as characters, and show the text of each unit.
Only a file with syntax errors in which nothing is found has no units. -/
theorem windows_kept (advances : configuration.window.overlap < configuration.window.greatest) :
    (∃ extracted cuts bounded, units configuration path relativePath parsed = .ok extracted ∧
      InDocument configuration parsed extracted ∧
      List.Forall₂ (Chunk.WindowedInto configuration.window) (assignIds extracted) cuts ∧
      ofParsed configuration path relativePath parsed = .ok bounded ∧
      bounded.KeptOf configuration cuts) ∨
    parsed.hasError = true ∧ ofParsed configuration path relativePath parsed =
      .error (Failure.ofCause (.emptySyntaxTree path)) := by
  rcases units_cases with ⟨extracted, found⟩ | ⟨broken, failed⟩
  · obtain ⟨cuts, each, cut⟩ := exists_bound_of_units (WindowSize.advances_iff.mpr advances) found
    exact .inl ⟨extracted, cuts, _, found, inDocument_of_units found,
      each.imp fun _ _ here => Chunk.windowedInto_of_split advances here, cut, keptOf_bound each⟩
  · refine .inr ⟨broken, ?_⟩
    rw [ofParsed, failed]
    rfl

end BoundedChunks

namespace Small

/-- A class of seven characters of four bytes each. -/
def wide : ParsedSource where
  tree := .node "class_declaration" true ⟨0, 28, 0, 0⟩ none []
  source := "𝄞𝄞𝄞𝄞𝄞𝄞𝄞"
  language := "java"
  hasError := false

/-- Windows have as many characters as chunks have tokens. -/
def tight : Configuration :=
  { narrow with hardTokenLimit := 4 }

/-- Two windows with as many tokens as are admitted show the whole class. -/
theorem windows_kept_wide :
    ∃ bounded, BoundedChunks.ofParsed tight ⟨"/r/A.java"⟩ "A.java" wide = .ok bounded ∧
      bounded.dropped = 0 ∧ bounded.chunks.map (estimateTokens ·.content) = [4, 4] ∧
      Chunk.rejoin 1 bounded.chunks = wide.source.toList := by
  have made : (BoundedChunks.ofParsed tight ⟨"/r/A.java"⟩ "A.java" wide).map
      (fun bounded => (bounded.chunks.map (estimateTokens ·.content),
        Chunk.rejoin 1 bounded.chunks)) = .ok ([4, 4], wide.source.toList) := by
    decide +kernel
  rcases @BoundedChunks.windows_kept tight ⟨"/r/A.java"⟩ "A.java" wide (by decide) with
    ⟨extracted, cuts, bounded, _, _, _, cut, kept⟩ | ⟨broken, _⟩
  · rw [cut] at made
    obtain ⟨tokens, shown⟩ := Prod.mk.inj (Except.ok.inj made)
    exact ⟨bounded, cut, (kept.complete (by decide)).1, tokens, shown⟩
  · cases broken

end Small

end SourceHarvest
