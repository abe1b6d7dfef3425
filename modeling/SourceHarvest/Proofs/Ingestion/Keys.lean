import SourceHarvest.Proofs.Chunk.Windows
import SourceHarvest.Proofs.Ingestion.Chunking
import SourceHarvest.Proofs.Syntax.Extraction
import SourceHarvest.VectorStore.Milvus
import Mathlib.Data.Nat.Digits.Defs

/-!
# Chunk ids as keys

The id of a chunk is a digest, or a digest with the number of a window behind it.  A text
does not have so many windows that the number would not fit into the key of the collection.
-/

namespace SourceHarvest

theorem Digest.hexDigit_mem : ∀ value < 16, Digest.hexDigit value ∈ "0123456789abcdef".toList := by
  decide

namespace ChunkId

/-- Thirty-two lowercase hexadecimal digits. -/
structure IsDigest (text : String) : Prop where
  length : text.toList.length = 32
  digits : ∀ c ∈ text.toList, c ∈ "0123456789abcdef".toList

theorem isDigest_hexDigest (message : List UInt8) : IsDigest (Digest.Md5.hexDigest message) where
  length := length_hexDigest message
  digits := by
    intro c member
    rw [Digest.Md5.hexDigest, Digest.hexText, String.toList_ofList, List.mem_flatMap] at member
    obtain ⟨byte, _, half⟩ := member
    have range := byte.toNat_lt
    rcases List.mem_cons.mp half with rfl | low
    · exact Digest.hexDigit_mem _ (by omega)
    · obtain rfl := List.mem_singleton.mp low
      exact Digest.hexDigit_mem _ (by omega)

theorem length_window {digest : String} (isDigest : IsDigest digest) (index : Nat) :
    (digest ++ "_" ++ toString index).toList.length = 33 + (Nat.toDigits 10 index).length := by
  rw [String.toList_append, String.toList_append, List.length_append, List.length_append,
    isDigest.length, Nat.toString_eq_repr, Nat.toList_repr]
  rfl

/-- The id of a window is no digest. -/
theorem window_ne_digest {digest other : String} (isDigest : IsDigest digest)
    (otherIsDigest : IsDigest other) (index : Nat) : digest ++ "_" ++ toString index ≠ other := by
  intro same
  have longer := length_window isDigest index
  rw [same, otherIsDigest.length] at longer
  omega

/-- An id is short, unless there are more windows than 64 bits can count. -/
theorem length_window_le {digest : String} (isDigest : IsDigest digest) {index : Nat}
    (small : index < 0x10000000000000000) :
    (digest ++ "_" ++ toString index).toList.length ≤ Milvus.greatestIdLength := by
  have digits := Nat.toDigits_length 10 index 20 (by decide) (Nat.lt_trans small (by decide))
  rw [length_window isDigest, Milvus.greatestIdLength]
  omega

end ChunkId

theorem isDigest_of_mem_assignIds {extracted : List ExtractedChunk} {chunk : Chunk}
    (member : chunk ∈ assignIds extracted) : ChunkId.IsDigest chunk.id := by
  obtain ⟨placed, _, rfl⟩ := List.mem_map.mp member
  exact ChunkId.isDigest_hexDigest _

namespace Chunk

/-- A short chunk is its own piece, and the pieces of a longer one are windows. -/
theorem mem_pieces {chunk piece : Chunk} {size : WindowSize} {pieces : List Chunk}
    (cut : chunk.split size = .ok pieces) (member : piece ∈ pieces) :
    chunk.content.toList.length ≤ size.greatest ∧ piece = chunk ∨
      ∃ index < chunk.content.toList.length, piece = chunk.window size index := by
  obtain ⟨advances, ⟨short, rfl⟩ | ⟨_, rfl⟩⟩ := split_eq_ok_iff.mp cut
  · exact .inl ⟨short, List.mem_singleton.mp member⟩
  · obtain ⟨index, inside, rfl⟩ := List.mem_map.mp member
    have starts := (WindowSize.lt_count_iff advances _ _).mp (List.mem_range.mp inside)
    have step := Nat.le_mul_of_pos_right index (WindowSize.stride_pos advances)
    exact .inr ⟨index, by omega, rfl⟩

/-- Where windows get ahead, every chunk can be cut. -/
theorem exists_split {size : WindowSize} (advances : size.advances = true) (chunk : Chunk) :
    ∃ pieces, chunk.split size = .ok pieces := by
  rw [split, if_pos advances]
  dsimp only
  split
  · exact ⟨_, rfl⟩
  · exact ⟨_, rfl⟩

theorem exists_splitAll {size : WindowSize} (advances : size.advances = true)
    (chunks : List Chunk) : ∃ cuts, chunks.mapM (·.split size) = .ok cuts := by
  induction chunks with
  | nil => exact ⟨[], rfl⟩
  | cons chunk rest inductionHypothesis =>
      obtain ⟨pieces, here⟩ := exists_split advances chunk
      obtain ⟨others, later⟩ := inductionHypothesis
      rw [List.mapM_cons, here, later]
      exact ⟨pieces :: others, rfl⟩

end Chunk

/-- The collection is made with a text key of so many characters. -/
structure Milvus.KeyOf (store : Milvus) (limit : Nat) : Prop where
  field : store.creation.member? "primaryFieldName" = some (.text "id")
  type : store.creation.member? "idType" = some (.text "VarChar")
  length : (store.creation.member? "params").bind (Json.Value.member? "max_length") =
    some (.ofNat limit)

theorem Milvus.keyOf_greatestIdLength (store : Milvus) : store.KeyOf greatestIdLength :=
  ⟨rfl, rfl, rfl⟩

namespace BoundedChunks

/-- The ids of chunks, which were cut out of others, can serve as their keys. -/
structure Keyed (size : WindowSize) (parents : List Chunk) (bounded : BoundedChunks) : Prop where
  distinct : (bounded.chunks.map (·.id)).Nodup
  form : ∀ chunk ∈ bounded.chunks, ∃ digest, ChunkId.IsDigest digest ∧
    ChunkId.MadeOf digest chunk.id
  apart : ∀ parent ∈ parents, ∀ other ∈ parents, size.greatest < other.content.toList.length →
    ∀ pieces, other.split size = .ok pieces → ∀ piece ∈ pieces, piece.id ≠ parent.id
  fits : ∀ store : Milvus, ∃ limit, store.KeyOf limit ∧
    ∀ chunk ∈ bounded.chunks, chunk.id.toList.length ≤ limit

section OfParsed

variable {configuration : Configuration} {path : Path} {relativePath : String}
  {parsed : ParsedSource}

/-- A file has units, unless it has syntax errors and nothing was found in it. -/
theorem units_cases :
    (∃ extracted, units configuration path relativePath parsed = .ok extracted) ∨
      parsed.hasError = true ∧ units configuration path relativePath parsed =
        .error (Failure.ofCause (.emptySyntaxTree path)) := by
  simp only [units]
  split
  · split
    · rename_i broken
      exact .inr ⟨broken, rfl⟩
    · split
      · exact .inl ⟨_, rfl⟩
      · exact .inl ⟨_, rfl⟩
  · exact .inl ⟨_, rfl⟩

/-- No unit is longer than the file. -/
theorem length_le_of_mem_units {extracted : List ExtractedChunk}
    (found : units configuration path relativePath parsed = .ok extracted)
    {chunk : ExtractedChunk} (member : chunk ∈ extracted) :
    chunk.content.toList.length ≤ parsed.source.toList.length := by
  simp only [units] at found
  split at found
  · split at found
    · cases found
    · split at found
      · cases found
        have whole := Option.mem_toList.mp member
        rw [SourceFile.wholeChunk?] at whole
        split at whole
        · cases whole
        · cases whole
          exact Nat.le_refl _
      · cases found
        cases member
  · cases found
    obtain ⟨_, before, after, whole, _⟩ := SyntaxTree.covers_of_mem_extract member
    change parsed.source.toList = _ at whole
    rw [whole, List.length_append, List.length_append]
    omega

variable {extracted : List ExtractedChunk} {bounded : BoundedChunks}

/-- Every chunk of a file is a piece of one of its units. -/
theorem exists_parent_of_ofParsed
    (found : units configuration path relativePath parsed = .ok extracted)
    (cut : ofParsed configuration path relativePath parsed = .ok bounded) {chunk : Chunk}
    (member : chunk ∈ bounded.chunks) :
    ∃ parent ∈ assignIds extracted, ∃ pieces,
      parent.split configuration.window = .ok pieces ∧ chunk ∈ pieces := by
  obtain ⟨others, cuts, same, each, kept⟩ := exists_cuts_of_ofParsed cut
  obtain rfl := Except.ok.inj (found.symm.trans same)
  exact Chunk.exists_split_of_mem_flatten each (kept.subset member)

/-- The chunks of a file have ids that can serve as keys. -/
theorem keyed_of_ofParsed
    (small : parsed.source.utf8ByteSize < 0x10000000000000000)
    (distinct : NoCollision
      {encoding | encoding ∈ encodings configuration path relativePath parsed})
    (found : units configuration path relativePath parsed = .ok extracted)
    (cut : ofParsed configuration path relativePath parsed = .ok bounded) :
    bounded.Keyed configuration.window (assignIds extracted) where
  distinct := (ofParsed_spec cut distinct fun _ inside => inside).2
  form := by
    intro chunk member
    obtain ⟨parent, inside, pieces, done, piece⟩ := exists_parent_of_ofParsed found cut member
    exact ⟨parent.id, isDigest_of_mem_assignIds inside, ((Chunk.split_spec done).1 chunk piece).id⟩
  apart := by
    intro parent inside other otherInside long pieces done piece member
    rcases Chunk.mem_pieces done member with ⟨short, _⟩ | ⟨index, _, rfl⟩
    · exact absurd long (Nat.not_lt.mpr short)
    · exact ChunkId.window_ne_digest (isDigest_of_mem_assignIds otherInside)
        (isDigest_of_mem_assignIds inside) index
  fits := by
    intro store
    refine ⟨Milvus.greatestIdLength, store.keyOf_greatestIdLength, fun chunk member => ?_⟩
    obtain ⟨parent, inside, pieces, done, piece⟩ := exists_parent_of_ofParsed found cut member
    have isDigest := isDigest_of_mem_assignIds inside
    rcases Chunk.mem_pieces done piece with ⟨_, rfl⟩ | ⟨index, within, rfl⟩
    · rw [isDigest.length]
      decide
    · obtain ⟨placed, place, rfl⟩ := List.mem_map.mp inside
      have shorter := length_le_of_mem_units found (List.fst_mem_of_mem_zipIdx place)
      have bytes := (utf8ByteSize_bounds parsed.source).1
      refine ChunkId.length_window_le isDigest ?_
      change index < placed.1.content.toList.length at within
      omega

/-- Where windows get ahead, the units of a file are cut into windows, and the windows are bounded. -/
theorem exists_bound_of_units (advances : configuration.window.advances = true)
    (found : units configuration path relativePath parsed = .ok extracted) :
    ∃ cuts, List.Forall₂ (fun chunk pieces => chunk.split configuration.window = .ok pieces)
        (assignIds extracted) cuts ∧
      ofParsed configuration path relativePath parsed =
        .ok (bound configuration.hardTokenLimit cuts.flatten) := by
  obtain ⟨cuts, done⟩ := Chunk.exists_splitAll advances (assignIds extracted)
  refine ⟨cuts, Chunk.forall₂_of_splitAll done, ?_⟩
  rw [ofParsed, found]
  simp only [bind, Except.bind, windows, done, Functor.map, Except.map]
  rfl

/-- With valid settings, a file is cut into chunks whose ids can serve as keys, unless nothing
was found in it because of its syntax errors. -/
theorem ids_are_keys (valid : configuration.validate = .ok ())
    (small : parsed.source.utf8ByteSize < 0x10000000000000000)
    (distinct : NoCollision
      {encoding | encoding ∈ encodings configuration path relativePath parsed}) :
    (∃ extracted bounded, units configuration path relativePath parsed = .ok extracted ∧
      ofParsed configuration path relativePath parsed = .ok bounded ∧
      bounded.Keyed configuration.window (assignIds extracted)) ∨
    parsed.hasError = true ∧ ofParsed configuration path relativePath parsed =
      .error (Failure.ofCause (.emptySyntaxTree path)) := by
  rcases units_cases with ⟨extracted, found⟩ | ⟨broken, failed⟩
  · obtain ⟨_, _, cut⟩ := exists_bound_of_units (Configuration.advances_of_validate valid) found
    exact .inl ⟨extracted, _, found, cut, keyed_of_ofParsed small distinct found cut⟩
  · refine .inr ⟨broken, ?_⟩
    rw [ofParsed, failed]
    rfl

end OfParsed

end BoundedChunks

namespace Small

/-- The same class twice on one line. -/
def echo : ParsedSource where
  tree := .node "program" true ⟨0, 15, 0, 0⟩ none
    [ .node "class_declaration" true ⟨0, 7, 0, 0⟩ none [],
      .node "class_declaration" true ⟨8, 15, 0, 0⟩ none [] ]
  source := "class A class A"
  language := "java"
  hasError := false

/-- Windows of four characters, one of them shared. -/
def narrow : Configuration :=
  { Configuration.default ⟨"/r"⟩ ⟨"/c"⟩ with window := ⟨4, 1⟩ }

/-- Both classes are cut into two windows each, and the four ids are different. -/
theorem ids_are_keys_echo :
    ∃ extracted bounded,
      BoundedChunks.units narrow ⟨"/r/A.java"⟩ "A.java" echo = .ok extracted ∧
      BoundedChunks.ofParsed narrow ⟨"/r/A.java"⟩ "A.java" echo = .ok bounded ∧
      bounded.Keyed narrow.window (assignIds extracted) ∧ bounded.chunks.length = 4 := by
  have distinct : NoCollision {encoding | encoding ∈
      BoundedChunks.encodings narrow ⟨"/r/A.java"⟩ "A.java" echo} :=
    noCollision_of_nodup (by decide +kernel)
  have made : (BoundedChunks.ofParsed narrow ⟨"/r/A.java"⟩ "A.java" echo).map (·.chunks.length) =
      .ok 4 := by
    decide +kernel
  have valid : narrow.validate = .ok () := by decide +kernel
  have small : echo.source.utf8ByteSize < 0x10000000000000000 := by decide +kernel
  rcases BoundedChunks.ids_are_keys valid small distinct with
    ⟨extracted, bounded, found, cut, keyed⟩ | ⟨broken, _⟩
  · rw [cut] at made
    exact ⟨extracted, bounded, found, cut, keyed, Except.ok.inj made⟩
  · cases broken

end Small

end SourceHarvest
