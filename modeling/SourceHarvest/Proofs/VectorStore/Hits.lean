import SourceHarvest.Http.Script
import SourceHarvest.Proofs.Chunk.Codec
import SourceHarvest.Proofs.VectorStore.Calls

/-!
# Rows and hits

Chunks that are put into the store go there as the rows of one request.  A hit that holds all
members of such a row gives back the id and the content of the chunk, and what is left of the hit
is read as the metadata of the chunk, whatever other members it has.
-/

namespace SourceHarvest

open Http Json

namespace Milvus

variable {σ : Type}

/-! ### Putting rows -/

/-- What becomes of chunks that are to be put into the store, each with a vector. -/
structure Upserts (store : Milvus) (chunks : List Chunk) (embeddings : List Embedding)
    (inquiries : List Inquiry) (result : Except Failure Unit) : Prop where
  uneven : chunks.length ≠ embeddings.length →
    inquiries = [] ∧ ∃ failure, result = .error failure
  nothing : chunks = [] → embeddings = [] → inquiries = [] ∧ result = .ok ()
  /-- All rows go in one request, in the order of their chunks. -/
  together : chunks ≠ [] → chunks.length = embeddings.length → ∃ inquiry, inquiries = [inquiry] ∧
    inquiry.request = postRequest (store.url "entities/upsert")
      (.object [store.collectionMember, ("data", .array (List.zipWith row chunks embeddings))]) ∧
    (result = .ok () ↔ ∃ data, Answers inquiry anyData? data)

theorem exists_goes_upsert (store : Milvus) (transport : Transport σ) (chunks : List Chunk)
    (embeddings : List Embedding) (state : σ) :
    ∃ inquiries result next,
      Goes (fun transport => store.upsert transport chunks embeddings) transport state inquiries
        result next ∧
      store.Upserts chunks embeddings inquiries result := by
  simp only [upsert]
  split
  · rename_i uneven
    refine ⟨[], _, state, Goes.still (.error _) transport state, ?_⟩
    constructor
    · exact fun _ => ⟨rfl, _, rfl⟩
    · rintro rfl rfl
      exact absurd rfl uneven
    · exact fun _ even => absurd even uneven
  · rename_i even
    rw [not_not] at even
    split
    · rename_i empty
      rw [List.isEmpty_iff] at empty
      refine ⟨[], _, state, Goes.still (.ok ()) transport state, ?_⟩
      constructor
      · exact fun uneven => absurd even uneven
      · exact fun _ _ => ⟨rfl, rfl⟩
      · exact fun nonempty => absurd empty nonempty
    · rename_i nonempty
      rw [List.isEmpty_iff] at nonempty
      rcases store.exists_goes_call "entities/upsert"
        (.object [store.collectionMember, ("data", .array (List.zipWith row chunks embeddings))])
        "upsert" anyData? transport state with ⟨inquiry, next, made, called⟩
      refine ⟨[inquiry], _, next, called.map fun _ => (), ?_⟩
      constructor
      · exact fun uneven => absurd even uneven
      · exact fun empty => absurd empty nonempty
      · refine fun _ _ => ⟨inquiry, rfl, made, ?_⟩
        cases came : outcome "upsert" anyData? inquiry with
        | error failure => simp [not_answers came]
        | ok data => simp [answers_iff came]

/-! ### Reading hits -/

/-- A hit has one member of each name, among them a distance and all members of the row of a
chunk. -/
structure Returns (chunk : Chunk) (embedding : Embedding) (distance : Number)
    (hit : List (String × Value)) : Prop where
  distinct : (hit.map (·.1)).Nodup
  near : ("distance", .number distance) ∈ hit
  whole : ∃ fields, row chunk embedding = .object fields ∧ fields ⊆ hit

theorem mem_withoutMember {name : String} {members : List (String × Value)}
    {member : String × Value} :
    member ∈ withoutMember name members ↔ member ∈ members ∧ member.1 ≠ name := by
  rw [withoutMember, List.mem_filter, bne_iff_ne]

theorem nodup_withoutMember {members : List (String × Value)}
    (distinct : (members.map (·.1)).Nodup) (name : String) :
    ((withoutMember name members).map (·.1)).Nodup :=
  distinct.sublist (List.filter_sublist.map _)

namespace Returns

variable {chunk : Chunk} {embedding : Embedding} {distance : Number} {hit : List (String × Value)}
  (returned : Returns chunk embedding distance hit)

include returned

theorem mem_of_row {member : String × Value}
    (inside : member ∈ ("id", .text chunk.id) :: ("content", .text chunk.content) ::
      chunk.metadata.members) : member ∈ hit := by
  rcases returned.whole with ⟨fields, same, all⟩
  obtain rfl := Value.object.inj same
  apply all
  rcases List.mem_cons.mp inside with rfl | further
  · exact List.mem_cons_self
  · exact List.mem_cons_of_mem _ (List.mem_cons_of_mem _ further)

theorem hitId_eq : hitId hit = chunk.id := by
  have found := Document.lookup_of_mem returned.distinct (returned.mem_of_row List.mem_cons_self)
  rw [hitId, found]

theorem hitScore_eq : hitScore hit = (distance.toBinary .double).convert .single := by
  have found := Document.lookup_of_mem returned.distinct returned.near
  rw [hitScore, found]

/-- The metadata of a hit hold the members of the row other than the id. -/
theorem lookup_metadata {member : String × Value}
    (inside : member ∈ ("content", .text chunk.content) :: chunk.metadata.members) :
    (withoutMember "distance" (withoutMember "id" hit)).lookup member.1 = some member.2 := by
  have named : ∀ name ∈ "content" :: ChunkMetadata.fieldNames, name ≠ "id" ∧ name ≠ "distance" := by
    decide
  have apart := named member.1 (List.mem_map_of_mem inside)
  apply Document.lookup_of_mem
    (nodup_withoutMember (nodup_withoutMember returned.distinct "id") "distance")
  rw [mem_withoutMember, mem_withoutMember]
  exact ⟨⟨returned.mem_of_row (List.mem_cons_of_mem _ inside), apart.1⟩, apart.2⟩

/-- The metadata of a hit are read as the metadata of the chunk. -/
theorem ofText?_metadata :
    (Document.ofText? (searchHit hit).metadata.compact).bind ChunkMetadata.ofDocument? =
      if chunk.metadata.Fits then some chunk.metadata else none := by
  rw [Document.ofText?_compact_eq_shown, Option.bind_some]
  apply ChunkMetadata.ofDocument?_shown
  · exact nodup_withoutMember (nodup_withoutMember returned.distinct "id") "distance"
  · intro member inside
    exact returned.lookup_metadata (List.mem_cons_of_mem _ inside)

end Returns

/-- Chunks with as many vectors go to the store as the rows of one request, in order, and without
any if there are none; otherwise nothing is sent and that is an error.  A hit that brings a row back
has the id of its chunk and its own distance, and its metadata hold the content of the chunk and are
read as the metadata of the chunk and no others: exactly if the lines have 64 bits. -/
theorem upserted_rows_return (store : Milvus) (transport : Transport σ) (chunks : List Chunk)
    (embeddings : List Embedding) (state : σ) :
    (∃ inquiries result next,
      Goes (fun transport => store.upsert transport chunks embeddings) transport state inquiries
        result next ∧
      store.Upserts chunks embeddings inquiries result) ∧
    ∀ chunk embedding distance hit, Returns chunk embedding distance hit →
      (searchHit hit).id = chunk.id ∧
      (searchHit hit).score = (distance.toBinary .double).convert .single ∧
      (searchHit hit).metadata.member? "content" = some (.text chunk.content) ∧
      ∀ read, (Document.ofText? (searchHit hit).metadata.compact).bind ChunkMetadata.ofDocument? =
        some read ↔ read = chunk.metadata ∧ chunk.metadata.Fits := by
  constructor
  · exact store.exists_goes_upsert transport chunks embeddings state
  · intro chunk embedding distance hit returned
    refine ⟨returned.hitId_eq, returned.hitScore_eq, returned.lookup_metadata List.mem_cons_self, ?_⟩
    intro read
    rw [returned.ofText?_metadata, Option.ite_none_right_eq_some, Option.some.injEq, eq_comm,
      and_comm]

end Milvus

namespace Small

open Milvus

/-- A chunk without any names. -/
def remark : Chunk :=
  { id := "7"
    content := "// \"x\""
    metadata :=
      { absolutePath := ⟨"/r/A.java"⟩
        relativePath := "A.java"
        scopeName := none
        containerName := none
        memberName := none
        kind := .classUnit
        language := "java"
        startLine := 1
        endLine := 1
        contentHash := "" } }

/-- The row of the chunk with a distance in front. -/
def near : List (String × Value) :=
  ("distance", .number (.natural 1)) :: ("id", .text remark.id) :: ("vector", .array []) ::
    ("content", .text remark.content) :: remark.metadata.members

/-- A hit with the row of a chunk gives that chunk back. -/
theorem upserted_rows_return_near :
    (searchHit near).id = "7" ∧
      (searchHit near).metadata.member? "content" = some (.text "// \"x\"") ∧
      (Document.ofText? (searchHit near).metadata.compact).bind ChunkMetadata.ofDocument? =
        some remark.metadata := by
  have returned : Returns remark ⟨[]⟩ (.natural 1) near := by
    constructor
    · decide
    · exact List.mem_cons_self
    · exact ⟨_, rfl, List.subset_cons_self _ _⟩
  rcases upserted_rows_return ⟨"http://localhost:19530", "code", 0⟩ ReplyQueue.transport [remark]
    [⟨[]⟩] ⟨[], []⟩ with ⟨_, returns⟩
  rcases returns remark ⟨[]⟩ (.natural 1) near returned with ⟨id, _, content, read⟩
  exact ⟨id, content, (read remark.metadata).mpr ⟨rfl, by decide⟩⟩

end Small

end SourceHarvest
