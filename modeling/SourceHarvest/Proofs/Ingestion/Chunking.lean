import SourceHarvest.Proofs.Chunk.Identity
import SourceHarvest.Proofs.Chunk.Windows
import Mathlib.Data.List.Nodup

/-!
# The chunks that a file is cut into

All chunks of a file bear its paths.  Where the digest has no collision among
the encodings of their ids, no two chunks of a file have the same id.
-/

namespace SourceHarvest

/-- The metadata are of the file at a path, which has a relative path. -/
structure ChunkMetadata.Bears (metadata : ChunkMetadata) (path : Path) (relativePath : String) :
    Prop where
  absolutePath : metadata.absolutePath = path
  relativePath : metadata.relativePath = relativePath

namespace SyntaxTree

theorem bears_of_chunk? {file : SourceFile} {scope around : Option String}
    {tree : SyntaxTree} {found : ExtractedChunk} (cut : tree.chunk? file scope around = some found) :
    found.metadata.Bears file.absolutePath file.relativePath := by
  rcases Option.bind_eq_some_iff.mp cut with ⟨content, _, made⟩
  split at made
  · cases made
  · cases made
    exact ⟨rfl, rfl⟩

mutual

theorem bears_of_mem_chunks {units : List String} {file : SourceFile}
    {scope around : Option String} {tree : SyntaxTree} {found : ExtractedChunk}
    (member : found ∈ chunks units file scope around tree) :
    found.metadata.Bears file.absolutePath file.relativePath := by
  cases tree with
  | node category named span nameIndex children =>
      rw [chunks] at member
      rcases List.mem_append.mp member with own | inner
      · split at own
        · exact bears_of_chunk? (Option.mem_toList.mp own)
        · cases own
      · exact bears_of_mem_chunksOfAll inner

theorem bears_of_mem_chunksOfAll {units : List String} {file : SourceFile}
    {scope around : Option String} {trees : List SyntaxTree} {found : ExtractedChunk}
    (member : found ∈ chunksOfAll units file scope around trees) :
    found.metadata.Bears file.absolutePath file.relativePath := by
  cases trees with
  | nil => cases member
  | cons tree rest =>
      rw [chunksOfAll] at member
      rcases List.mem_append.mp member with here | later
      · exact bears_of_mem_chunks here
      · exact bears_of_mem_chunksOfAll later

end

end SyntaxTree

namespace Chunk

/-- A piece of a chunk has an id made of that of the chunk, and the paths of the chunk. -/
structure PieceOf (chunk piece : Chunk) : Prop where
  id : ChunkId.MadeOf chunk.id piece.id
  bears : piece.metadata.Bears chunk.metadata.absolutePath chunk.metadata.relativePath

/-- Cutting a chunk gives pieces of it with different ids. -/
theorem split_spec {chunk : Chunk} {size : WindowSize} {pieces : List Chunk}
    (cut : chunk.split size = .ok pieces) :
    (∀ piece ∈ pieces, chunk.PieceOf piece) ∧ (pieces.map (·.id)).Nodup := by
  obtain ⟨_, ⟨_, rfl⟩ | ⟨_, rfl⟩⟩ := split_eq_ok_iff.mp cut
  · constructor
    · intro piece member
      obtain rfl := List.mem_singleton.mp member
      exact ⟨.inl rfl, rfl, rfl⟩
    · exact List.nodup_singleton _
  · constructor
    · intro piece member
      rcases List.mem_map.mp member with ⟨index, _, rfl⟩
      exact ⟨.inr ⟨index, rfl⟩, rfl, rfl⟩
    · rw [List.map_map]
      exact List.nodup_range.map_on fun first _ second _ same => ChunkId.window_inj same

/-- Where several chunks were cut, each was cut into the pieces in its place. -/
theorem forall₂_of_splitAll {chunks : List Chunk} {size : WindowSize} {cuts : List (List Chunk)}
    (cut : chunks.mapM (·.split size) = .ok cuts) :
    List.Forall₂ (fun chunk pieces => chunk.split size = .ok pieces) chunks cuts := by
  induction chunks generalizing cuts with
  | nil =>
      cases cut
      exact .nil
  | cons chunk rest inductionHypothesis =>
      rw [List.mapM_cons] at cut
      cases here : chunk.split size with
      | error failure =>
          rw [here] at cut
          cases cut
      | ok pieces =>
          cases later : rest.mapM (·.split size) with
          | error failure =>
              rw [here, later] at cut
              cases cut
          | ok others =>
              rw [here, later] at cut
              cases cut
              exact .cons here (inductionHypothesis later)

/-- What chunks were cut into comes from one of them. -/
theorem exists_split_of_mem_flatten {chunks : List Chunk} {size : WindowSize}
    {cuts : List (List Chunk)}
    (each : List.Forall₂ (fun chunk pieces => chunk.split size = .ok pieces) chunks cuts)
    {piece : Chunk} (member : piece ∈ cuts.flatten) :
    ∃ chunk ∈ chunks, ∃ pieces, chunk.split size = .ok pieces ∧ piece ∈ pieces := by
  induction each with
  | nil => cases member
  | @cons chunk pieces rest others here _ inductionHypothesis =>
      rcases List.mem_append.mp (List.flatten_cons ▸ member) with first | later
      · exact ⟨chunk, List.mem_cons_self, pieces, here, first⟩
      · rcases inductionHypothesis later with ⟨other, inside, made⟩
        exact ⟨other, List.mem_cons_of_mem _ inside, made⟩

/-- What chunks were cut into are pieces of them. -/
theorem exists_pieceOf {chunks : List Chunk} {size : WindowSize} {cuts : List (List Chunk)}
    (each : List.Forall₂ (fun chunk pieces => chunk.split size = .ok pieces) chunks cuts)
    {piece : Chunk} (member : piece ∈ cuts.flatten) : ∃ chunk ∈ chunks, chunk.PieceOf piece := by
  obtain ⟨chunk, inside, pieces, here, made⟩ := exists_split_of_mem_flatten each member
  exact ⟨chunk, inside, (split_spec here).1 piece made⟩

/-- Pieces of chunks whose ids have nothing in common have different ids. -/
theorem nodup_pieces {chunks : List Chunk} {size : WindowSize} {cuts : List (List Chunk)}
    (each : List.Forall₂ (fun chunk pieces => chunk.split size = .ok pieces) chunks cuts)
    (apart : chunks.Pairwise fun first second => ∀ id,
      ChunkId.MadeOf first.id id → ¬ ChunkId.MadeOf second.id id) :
    (cuts.flatten.map (·.id)).Nodup := by
  induction each with
  | nil => exact List.nodup_nil
  | @cons chunk pieces rest others here later inductionHypothesis =>
      rcases List.pairwise_cons.mp apart with ⟨fresh, restApart⟩
      rcases split_spec here with ⟨own, different⟩
      rw [List.flatten_cons, List.map_append]
      refine List.Nodup.append different (inductionHypothesis restApart) ?_
      intro id left right
      rcases List.mem_map.mp left with ⟨piece, inside, rfl⟩
      rcases List.mem_map.mp right with ⟨other, otherInside, same⟩
      rcases exists_pieceOf later otherInside with ⟨source, sourceInside, made⟩
      exact fresh source sourceInside piece.id (own piece inside).id (same ▸ made.id)

end Chunk

namespace BoundedChunks

/-- The encodings that the ids of the chunks of a parsed file are digests of. -/
def encodings (configuration : Configuration) (path : Path) (relativePath : String)
    (parsed : ParsedSource) : List (List UInt8) :=
  match units configuration path relativePath parsed with
  | .ok extracted => extracted.zipIdx.map fun placed =>
      ChunkId.encode placed.1.metadata placed.1.metadata.contentHash placed.2
  | .error _ => []

theorem bears_of_mem_units {configuration : Configuration} {path : Path}
    {relativePath : String} {parsed : ParsedSource} {extracted : List ExtractedChunk}
    (found : units configuration path relativePath parsed = .ok extracted) :
    ∀ chunk ∈ extracted, chunk.metadata.Bears path relativePath := by
  simp only [units] at found
  split at found
  · split at found
    · cases found
    · split at found
      · cases found
        intro chunk member
        have whole := Option.mem_toList.mp member
        rw [SourceFile.wholeChunk?] at whole
        split at whole
        · cases whole
        · cases whole
          exact ⟨rfl, rfl⟩
      · cases found
        intro chunk member
        cases member
  · cases found
    intro chunk member
    exact SyntaxTree.bears_of_mem_chunks member

/-- The chunks of a parsed file are the pieces of its units one after the other, without those that
have too many tokens. -/
theorem exists_bound_of_ofParsed {configuration : Configuration} {path : Path} {relativePath : String}
    {parsed : ParsedSource} {bounded : BoundedChunks}
    (cut : ofParsed configuration path relativePath parsed = .ok bounded) :
    ∃ extracted cuts, units configuration path relativePath parsed = .ok extracted ∧
      List.Forall₂ (fun chunk pieces => chunk.split configuration.window = .ok pieces)
        (assignIds extracted) cuts ∧
      bounded = bound configuration.hardTokenLimit cuts.flatten := by
  simp only [ofParsed] at cut
  cases found : units configuration path relativePath parsed with
  | error failure =>
      rw [found] at cut
      cases cut
  | ok extracted =>
      cases pieces : (assignIds extracted).mapM (·.split configuration.window) with
      | error failure =>
          simp only [found, bind, Except.bind, windows, pieces, Functor.map, Except.map] at cut
          cases cut
      | ok cuts =>
          simp only [found, bind, Except.bind, windows, pieces, Functor.map, Except.map] at cut
          cases cut
          exact ⟨extracted, cuts, rfl, Chunk.forall₂_of_splitAll pieces, rfl⟩

/-- The chunks of a parsed file are among the pieces of its units. -/
theorem exists_cuts_of_ofParsed {configuration : Configuration} {path : Path} {relativePath : String}
    {parsed : ParsedSource} {bounded : BoundedChunks}
    (cut : ofParsed configuration path relativePath parsed = .ok bounded) :
    ∃ extracted cuts, units configuration path relativePath parsed = .ok extracted ∧
      List.Forall₂ (fun chunk pieces => chunk.split configuration.window = .ok pieces)
        (assignIds extracted) cuts ∧ bounded.chunks.Sublist cuts.flatten := by
  obtain ⟨extracted, cuts, found, each, rfl⟩ := exists_bound_of_ofParsed cut
  exact ⟨extracted, cuts, found, each, List.filter_sublist⟩

section OfParsed

variable {configuration : Configuration} {path : Path} {relativePath : String}
  {parsed : ParsedSource} {bounded : BoundedChunks}

/-- The chunks of a parsed file bear its paths, and have ids made of those of its units. -/
theorem exists_unit_of_ofParsed
    (cut : ofParsed configuration path relativePath parsed = .ok bounded) {chunk : Chunk}
    (member : chunk ∈ bounded.chunks) :
    ∃ extracted, units configuration path relativePath parsed = .ok extracted ∧
      ∃ placed ∈ extracted.zipIdx, chunk.metadata.Bears path relativePath ∧
        placed.1.metadata.relativePath = relativePath ∧
        ChunkId.MadeOf (placed.1.withOrdinal placed.2).id chunk.id := by
  obtain ⟨extracted, cuts, found, each, kept⟩ := exists_cuts_of_ofParsed cut
  rcases Chunk.exists_pieceOf each (kept.subset member) with ⟨source, sourceInside, made⟩
  rcases List.mem_map.mp sourceInside with ⟨placed, placedInside, rfl⟩
  have whole := bears_of_mem_units found placed.1 (List.fst_mem_of_mem_zipIdx placedInside)
  exact ⟨extracted, found, placed, placedInside,
    ⟨made.bears.absolutePath.trans whole.absolutePath, made.bears.relativePath.trans whole.relativePath⟩,
    whole.relativePath, made.id⟩

/-- The chunks of a parsed file bear its paths, were coined of encodings that were met, and have
different ids. -/
theorem ofParsed_spec {met : Set (List UInt8)}
    (cut : ofParsed configuration path relativePath parsed = .ok bounded)
    (distinct : NoCollision met)
    (inside : ∀ encoding ∈ encodings configuration path relativePath parsed, encoding ∈ met) :
    (∀ chunk ∈ bounded.chunks, chunk.metadata.Bears path relativePath ∧ chunk.Coined met) ∧
      (bounded.chunks.map (·.id)).Nodup := by
  obtain ⟨extracted, cuts, found, each, kept⟩ := exists_cuts_of_ofParsed cut
  simp only [encodings, found, List.mem_map, forall_exists_index, and_imp,
    forall_apply_eq_imp_iff₂] at inside
  constructor
  · intro chunk member
    obtain ⟨others, same, placed, placedInside, bears, place, made⟩ := exists_unit_of_ofParsed cut member
    obtain rfl := Except.ok.inj (found.symm.trans same)
    exact ⟨bears, _, _, _, inside placed placedInside, place.trans bears.relativePath.symm, made⟩
  · have ascending : extracted.zipIdx.Pairwise fun first second => first.2 < second.2 := by
      rw [← List.pairwise_map (f := Prod.snd) (R := (· < ·)), List.zipIdx_map_snd]
      exact List.pairwise_lt_range'
    have apart : (assignIds extracted).Pairwise fun first second => ∀ id,
        ChunkId.MadeOf first.id id → ¬ ChunkId.MadeOf second.id id := by
      rw [assignIds, List.pairwise_map]
      refine ascending.imp_of_mem fun {first second} firstInside secondInside less id made
        otherMade => ?_
      have same := distinct (inside first firstInside) (inside second secondInside)
        (made.digest_eq otherMade)
      exact Nat.ne_of_lt less (ChunkId.ordinal_eq_of_encode_eq same)
    exact (Chunk.nodup_pieces each apart).sublist (kept.map _)

end OfParsed

end BoundedChunks

end SourceHarvest
