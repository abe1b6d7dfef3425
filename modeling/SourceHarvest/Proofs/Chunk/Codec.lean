import SourceHarvest.Chunk.Codec
import SourceHarvest.Proofs.Json.Compact

/-!
# Chunks that were written

A chunk is written as one object on one line, and that text gives back the chunk and no other,
whatever its texts hold: only its lines have to be numbers of 64 bits.  A name that is missing
is written as a null and so is not mistaken for an empty one.
-/

namespace SourceHarvest

open Json

theorem optional?_optionalText (name : Option String) :
    Document.optional? Document.text? (some (Value.optionalText name).document) = some name := by
  cases name <;> rfl

namespace ChunkMetadata

/-- The lines of the metadata have 64 bits. -/
def Fits (metadata : ChunkMetadata) : Prop :=
  metadata.startLine ≤ greatestWord ∧ metadata.endLine ≤ greatestWord

instance (metadata : ChunkMetadata) : Decidable metadata.Fits :=
  inferInstanceAs (Decidable (_ ∧ _))

theorem integral_toJson (metadata : ChunkMetadata) : metadata.toJson.Integral := by
  have named (name : Option String) : (Value.optionalText name).Integral := by
    cases name <;> trivial
  exact ⟨trivial, trivial, named _, named _, named _, trivial, trivial, rfl, rfl, trivial, trivial⟩

/-- Metadata are read again from their own fields if their lines have 64 bits. -/
theorem ofDocument?_of_fields {metadata : ChunkMetadata} {document : Document}
    (fields : document.fields? fieldNames =
      some (metadata.members.map fun member => some member.2.document)) :
    ofDocument? document = if metadata.Fits then some metadata else none := by
  have startLine := Document.natural?_document (Nat.le_refl _) metadata.startLine
  have endLine := Document.natural?_document (Nat.le_refl _) metadata.endLine
  have word (text : String) : (Value.text text).document.text? = some text := rfl
  have caseName (text : String) : (Value.text text).document.caseName? = some text := rfl
  simp only [members, List.map_cons, List.map_nil] at fields
  rw [ofDocument?, fields]
  simp only [↓Option.bind_eq_bind, ↓Option.bind_some, Option.pure_def, ↓word, ↓caseName,
    ↓optional?_optionalText, ↓ChunkKind.ofName?_name, ↓startLine, ↓endLine]
  by_cases start : metadata.startLine ≤ greatestWord
  · by_cases stop : metadata.endLine ≤ greatestWord
    · have fits : metadata.Fits := ⟨start, stop⟩
      rw [if_pos fits, if_pos start, if_pos stop]
      rfl
    · have unfit : ¬ metadata.Fits := fun fits => stop fits.2
      rw [if_neg unfit, if_pos start, if_neg stop]
      rfl
  · have unfit : ¬ metadata.Fits := fun fits => start fits.1
    rw [if_neg unfit, if_neg start]
    rfl

theorem nodup_members (metadata : ChunkMetadata) : (metadata.members.map (·.1)).Nodup := by
  simp [members]

/-- Metadata that were written are read again if their lines have 64 bits. -/
theorem ofDocument?_toJson (metadata : ChunkMetadata) :
    ofDocument? metadata.toJson.document = if metadata.Fits then some metadata else none :=
  ofDocument?_of_fields (Document.fields?_members metadata.nodup_members)

/-- Metadata are also read again from an object that has further members. -/
theorem ofDocument?_shown {metadata : ChunkMetadata} {all : List (String × Value)}
    (distinct : (all.map (·.1)).Nodup)
    (held : ∀ member ∈ metadata.members, all.lookup member.1 = some member.2) :
    ofDocument? (Value.object all).shown = if metadata.Fits then some metadata else none := by
  have shown := Value.shown_of_integral metadata.integral_toJson
  rw [toJson, Value.shown, Value.document, Value.shownMembers_eq_map,
    Document.memberDocuments_eq_map, Document.object.injEq, List.map_inj_left] at shown
  apply ofDocument?_of_fields
  have names : fieldNames = metadata.members.map (·.1) := rfl
  rw [Document.fields?_shown distinct, names, List.map_map, Option.some.injEq]
  apply List.map_congr_left
  intro member inside
  rw [Function.comp_apply, held member inside, Option.map_some, (Prod.mk.inj (shown member inside)).2]

end ChunkMetadata

namespace Chunk

theorem integral_toJson (chunk : Chunk) : chunk.toJson.Integral :=
  ⟨trivial, trivial, chunk.metadata.integral_toJson, trivial⟩

/-- A chunk that was written is read again if its lines have 64 bits. -/
theorem ofDocument?_toJson (chunk : Chunk) :
    ofDocument? chunk.toJson.document = if chunk.metadata.Fits then some chunk else none := by
  have metadata := chunk.metadata.ofDocument?_toJson
  have word (text : String) : (Value.text text).document.text? = some text := rfl
  have fields : chunk.toJson.document.fields? fieldNames = _ := Document.fields?_members (by simp)
  rw [ofDocument?, fields]
  simp only [List.map_cons, List.map_nil, Option.bind_eq_bind, Option.bind_some, Option.pure_def,
    word, metadata]
  by_cases fits : chunk.metadata.Fits
  · rw [if_pos fits, if_pos fits]
    rfl
  · rw [if_neg fits, if_neg fits]
    rfl

/-- The text of a chunk is its tokens without blanks, and it is read as that chunk alone: exactly
if the lines have 64 bits, and never as another. -/
theorem decode?_encode_eq_some_iff (written : Chunk) :
    Token.SpellsClosely written.toJson.document.tokens written.encode.toList ∧
      ∀ read, decode? written.encode = some read ↔ read = written ∧ written.metadata.Fits := by
  refine ⟨Value.spellsClosely_compact written.integral_toJson, fun read => ?_⟩
  rw [decode?, encode, Document.ofText?_compact written.integral_toJson, Option.bind_some,
    ofDocument?_toJson]
  by_cases fits : written.metadata.Fits
  · rw [if_pos fits, Option.some.injEq, eq_comm, and_iff_left fits]
  · rw [if_neg fits]
    exact iff_of_false (Option.some_ne_none read).symm fun both => fits both.2

end Chunk

end SourceHarvest
