import SourceHarvest.Ingestion.Chunking
import SourceHarvest.Proofs.Text.Bytes
import Mathlib.Data.List.Nodup
import Mathlib.Data.Set.Function

/-!
# What an id tells about a chunk

The encoding under an id can be read back field by field, so it tells which file a chunk
is from and which place it has there.  Where the digest has no collision, the id does too:
chunks of different files have different ids, and so have all chunks that one file is cut into.
-/

namespace SourceHarvest

theorem toString_injective {first second : Nat} (same : toString first = toString second) :
    first = second := by
  rw [Nat.toString_eq_repr, Nat.toString_eq_repr] at same
  exact Nat.repr_injective same

namespace ChunkId

/-- A field can be told from what follows it. -/
theorem encodeField_append_inj {first second : String} {firstRest secondRest : List UInt8}
    (same : encodeField first ++ firstRest = encodeField second ++ secondRest) :
    first = second ∧ firstRest = secondRest := by
  simp only [encodeField, List.append_assoc, List.cons_append] at same
  have headed (length : Nat) (rest : List UInt8) :
      (utf8Bytes (toString length) ++ 58 :: rest).takeWhile (· != 58) =
        utf8Bytes (toString length) := by
    rw [List.takeWhile_append_of_pos]
    · simp
    · intro byte inside
      have other : byte ≠ 58 := fun colon => colon_not_mem_digits length (colon ▸ inside)
      simpa using other
  have prefixes := congrArg (List.takeWhile (· != 58)) same
  rw [headed, headed] at prefixes
  have lengths := toString_injective (utf8Bytes_injective prefixes)
  rw [prefixes] at same
  have rests := List.cons.inj (List.append_cancel_left same)
  obtain ⟨bytes, further⟩ := List.append_inj rests.2 (by
    rw [length_utf8Bytes, length_utf8Bytes, lengths])
  exact ⟨utf8Bytes_injective bytes, further⟩

/-- Encoded fields tell the fields. -/
theorem flatMap_encodeField_inj {first second : List String} (length : first.length = second.length)
    (same : first.flatMap encodeField = second.flatMap encodeField) : first = second := by
  induction first generalizing second with
  | nil => exact (List.eq_nil_of_length_eq_zero length.symm).symm
  | cons field rest inductionHypothesis =>
      cases second with
      | nil => cases length
      | cons other others =>
          rw [List.flatMap_cons, List.flatMap_cons] at same
          rcases encodeField_append_inj same with ⟨rfl, further⟩
          rw [inductionHypothesis (Nat.succ.inj length) further]

theorem fields_eq_of_encode_eq {first second : ChunkMetadata} {firstHash secondHash : String}
    {firstOrdinal secondOrdinal : Nat}
    (same : encode first firstHash firstOrdinal = encode second secondHash secondOrdinal) :
    fields first firstHash firstOrdinal = fields second secondHash secondOrdinal :=
  flatMap_encodeField_inj rfl same

theorem relativePath_eq_of_encode_eq {first second : ChunkMetadata} {firstHash secondHash : String}
    {firstOrdinal secondOrdinal : Nat}
    (same : encode first firstHash firstOrdinal = encode second secondHash secondOrdinal) :
    first.relativePath = second.relativePath :=
  (List.cons.inj (fields_eq_of_encode_eq same)).1

theorem ordinal_eq_of_encode_eq {first second : ChunkMetadata} {firstHash secondHash : String}
    {firstOrdinal secondOrdinal : Nat}
    (same : encode first firstHash firstOrdinal = encode second secondHash secondOrdinal) :
    firstOrdinal = secondOrdinal := by
  have fields := congrArg List.getLast? (fields_eq_of_encode_eq same)
  exact toString_injective (Option.some.inj fields)

/-- An id that is made of another one: that one itself, or that of one of its windows. -/
def MadeOf (stem id : String) : Prop :=
  id = stem ∨ ∃ index : Nat, id = stem ++ "_" ++ toString index

theorem length_hexDigest (message : List UInt8) :
    (Digest.Md5.hexDigest message).toList.length = 32 := by
  rw [Digest.Md5.hexDigest, Digest.hexText, String.toList_ofList, Digest.length_flatMap_hexByte,
    Digest.Md5.length_digest]

/-- The digest that an id is made of can be read off. -/
theorem MadeOf.digest_eq {id : String} {first second : List UInt8}
    (left : MadeOf (Digest.Md5.hexDigest first) id)
    (right : MadeOf (Digest.Md5.hexDigest second) id) :
    Digest.Md5.hexDigest first = Digest.Md5.hexDigest second := by
  have start {message : List UInt8} (made : MadeOf (Digest.Md5.hexDigest message) id) :
      id.toList.take 32 = (Digest.Md5.hexDigest message).toList := by
    rcases made with rfl | ⟨index, rfl⟩
    · exact List.take_of_length_le (length_hexDigest message).le
    · rw [String.toList_append, String.toList_append, List.append_assoc,
        List.take_append_of_le_length (length_hexDigest message).ge,
        List.take_of_length_le (length_hexDigest message).le]
  exact String.toList_inj.mp ((start left).symm.trans (start right))

theorem window_inj {stem : String} {first second : Nat}
    (same : stem ++ "_" ++ toString first = stem ++ "_" ++ toString second) : first = second := by
  have digits := congrArg String.toList same
  simp only [String.toList_append] at digits
  exact toString_injective (String.toList_inj.mp (List.append_cancel_left digits))

end ChunkId

/-- The digest tells the encodings apart that were met. -/
def NoCollision (met : Set (List UInt8)) : Prop :=
  met.InjOn Digest.Md5.hexDigest

/-- Encodings with different digests do not collide. -/
theorem noCollision_of_nodup {encodings : List (List UInt8)}
    (different : (encodings.map Digest.Md5.hexDigest).Nodup) :
    NoCollision {encoding | encoding ∈ encodings} :=
  fun _ first _ second same => List.inj_on_of_nodup_map different first second same

/-- The id of the chunk was made of an encoding that was met, for the file of the chunk. -/
def Chunk.Coined (met : Set (List UInt8)) (chunk : Chunk) : Prop :=
  ∃ metadata hash ordinal, ChunkId.encode metadata hash ordinal ∈ met ∧
    metadata.relativePath = chunk.metadata.relativePath ∧
    ChunkId.MadeOf (ChunkId.build metadata hash ordinal) chunk.id

/-- Chunks with one id are from one file. -/
theorem Chunk.Coined.relativePath_eq {met : Set (List UInt8)} (distinct : NoCollision met)
    {first second : Chunk} (firstCoined : first.Coined met) (secondCoined : second.Coined met)
    (same : first.id = second.id) :
    first.metadata.relativePath = second.metadata.relativePath := by
  rcases firstCoined with ⟨metadata, hash, ordinal, inside, path, made⟩
  rcases secondCoined with ⟨other, otherHash, otherOrdinal, otherInside, otherPath, otherMade⟩
  have digests := made.digest_eq (same ▸ otherMade)
  rw [← path, ← otherPath]
  exact ChunkId.relativePath_eq_of_encode_eq (distinct inside otherInside digests)

end SourceHarvest
