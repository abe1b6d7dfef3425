import SourceHarvest.Proofs.Chunk.Identity
import SourceHarvest.Proofs.Text.Slices

/-!
# What goes into an id

Nine fields go into the id of a chunk, and what is written for them tells all nine: however much a
name looks like the end of one field and the start of another, no other fields are written alike.
Of the hash only its start is told, and nothing else of a chunk plays a part.
-/

namespace SourceHarvest

theorem byteSize_toList (text : String) : Text.byteSize text.toList = text.utf8ByteSize := by
  rw [← length_utf8Bytes, utf8Bytes_eq, Text.length_flatMap_utf8EncodeChar]

namespace ChunkId

/-- The part of a hash that goes into ids: its first sixteen bytes where a character ends behind
them, and otherwise the whole of it. -/
inductive IsHashPart : String → String → Prop where
  | start {part rest : String} : part.utf8ByteSize = 16 → IsHashPart (part ++ rest) part
  | whole {hash : String} : (∀ part rest, hash = part ++ rest → part.utf8ByteSize ≠ 16) →
      IsHashPart hash hash

/-- The first bytes of a hash are cut off where there are so many and a character ends there. -/
theorem slice?_start_eq_some_iff {hash part : String} :
    Text.slice? hash.toList 0 hashPartSize = some part.toList ↔
      ∃ rest, hash = part ++ rest ∧ part.utf8ByteSize = 16 := by
  rw [Text.slice?_eq_some_iff]
  constructor
  · rintro ⟨before, after, split, start, stop⟩
    obtain rfl : before = [] := by
      cases before with
      | nil => rfl
      | cons c rest =>
          rw [Text.byteSize_cons] at start
          exact absurd start (Nat.ne_of_gt (Nat.add_pos_left c.utf8Size_pos _))
    refine ⟨String.ofList after, ?_, ?_⟩
    · rw [← String.toList_inj, String.toList_append, String.toList_ofList]
      exact split
    · rw [← byteSize_toList]
      exact stop
  · rintro ⟨rest, rfl, size⟩
    refine ⟨[], rest.toList, ?_, rfl, ?_⟩
    · rw [String.toList_append, List.nil_append]
    · rw [List.nil_append, byteSize_toList]
      exact size

/-- What goes into ids is that part of the hash and nothing else. -/
theorem isHashPart_iff {hash part : String} : IsHashPart hash part ↔ hashPart hash = part := by
  constructor
  · rintro (@⟨_, rest, size⟩ | uncut)
    · rw [hashPart, slice?_start_eq_some_iff.mpr ⟨rest, rfl, size⟩]
      exact String.ofList_toList
    · cases cut : Text.slice? hash.toList 0 hashPartSize with
      | none => rw [hashPart, cut]
      | some found =>
          rw [← String.toList_ofList (l := found)] at cut
          obtain ⟨rest, split, size⟩ := slice?_start_eq_some_iff.mp cut
          exact absurd size (uncut _ rest split)
  · rintro rfl
    cases cut : Text.slice? hash.toList 0 hashPartSize with
    | some found =>
        rw [hashPart, cut]
        rw [← String.toList_ofList (l := found)] at cut
        obtain ⟨rest, rfl, size⟩ := slice?_start_eq_some_iff.mp cut
        exact .start size
    | none =>
        rw [hashPart, cut]
        refine .whole fun start rest split size => ?_
        rw [slice?_start_eq_some_iff.mpr ⟨rest, split, size⟩] at cut
        cases cut

/-- Two chunks agree on all that goes into their ids.  A name that is missing counts as empty. -/
structure Agree (first second : ChunkMetadata) (firstHash secondHash : String)
    (firstOrdinal secondOrdinal : Nat) : Prop where
  relativePath : first.relativePath = second.relativePath
  scopeName : first.scopeName.getD "" = second.scopeName.getD ""
  containerName : first.containerName.getD "" = second.containerName.getD ""
  memberName : first.memberName.getD "" = second.memberName.getD ""
  kind : first.kind = second.kind
  startLine : first.startLine = second.startLine
  endLine : first.endLine = second.endLine
  hash : ∃ part, IsHashPart firstHash part ∧ IsHashPart secondHash part
  ordinal : firstOrdinal = secondOrdinal

/-- The fields are the same where all that goes into them is. -/
theorem fields_eq_iff {first second : ChunkMetadata} {firstHash secondHash : String}
    {firstOrdinal secondOrdinal : Nat} :
    fields first firstHash firstOrdinal = fields second secondHash secondOrdinal ↔
      Agree first second firstHash secondHash firstOrdinal secondOrdinal := by
  simp only [fields, List.cons.injEq, and_true]
  constructor
  · rintro ⟨relativePath, scopeName, containerName, memberName, kind, startLine, endLine, hash,
      ordinal⟩
    exact
      { relativePath, scopeName, containerName, memberName
        kind := ChunkKind.name_injective kind
        startLine := toString_injective startLine
        endLine := toString_injective endLine
        hash := ⟨_, isHashPart_iff.mpr hash, isHashPart_iff.mpr rfl⟩
        ordinal := toString_injective ordinal }
  · rintro ⟨relativePath, scopeName, containerName, memberName, kind, startLine, endLine,
      ⟨part, hash, otherHash⟩, ordinal⟩
    refine ⟨relativePath, scopeName, containerName, memberName, congrArg _ kind,
      congrArg _ startLine, congrArg _ endLine, ?_, congrArg _ ordinal⟩
    rw [isHashPart_iff.mp hash, isHashPart_iff.mp otherHash]

/-- The bytes under two ids are the same exactly if the chunks agree on the nine fields.  Where a
file lies, in which language it is written and which hash its metadata hold changes no id. -/
theorem encode_eq_iff (first second : ChunkMetadata) (firstHash secondHash : String)
    (firstOrdinal secondOrdinal : Nat) :
    (encode first firstHash firstOrdinal = encode second secondHash secondOrdinal ↔
      Agree first second firstHash secondHash firstOrdinal secondOrdinal) ∧
    ∀ absolutePath language contentHash,
      build { first with absolutePath, language, contentHash } firstHash firstOrdinal =
        build first firstHash firstOrdinal := by
  refine ⟨⟨fun same => fields_eq_iff.mp (fields_eq_of_encode_eq same), fun agree => ?_⟩,
    fun _ _ _ => rfl⟩
  rw [encode, encode, fields_eq_iff.mpr agree]

/-- A name that ends like the next field begins is told from that field. -/
example : ¬ Agree
    ⟨⟨"/r/A"⟩, "A", some "1:B", none, none, .file, "", 1, 1, ""⟩
    ⟨⟨"/r/A"⟩, "A", some "", some "B", none, .file, "", 1, 1, ""⟩ "" "" 0 0 :=
  fun agree => absurd agree.scopeName (by decide)

end ChunkId

end SourceHarvest
