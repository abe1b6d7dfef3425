import SourceHarvest.Chunk.Basic
import SourceHarvest.Json.Decode
import SourceHarvest.Json.Writer

/-!
# Chunks as JSON

A chunk is written as an object with its fields in a fixed order, and read back from
an object in any order or from an array in that order.
-/

namespace SourceHarvest

open Json

namespace ChunkMetadata

/-- The names of the fields, in order. -/
def fieldNames : List String :=
  ["absolute_path", "relative_path", "scope_name", "container_name", "member_name", "kind",
    "language", "start_line", "end_line", "content_hash"]

/-- The metadata as members of an object. -/
def members (metadata : ChunkMetadata) : List (String × Value) :=
  [ ("absolute_path", .text metadata.absolutePath.text),
    ("relative_path", .text metadata.relativePath),
    ("scope_name", .optionalText metadata.scopeName),
    ("container_name", .optionalText metadata.containerName),
    ("member_name", .optionalText metadata.memberName),
    ("kind", .text metadata.kind.name),
    ("language", .text metadata.language),
    ("start_line", .ofNat metadata.startLine),
    ("end_line", .ofNat metadata.endLine),
    ("content_hash", .text metadata.contentHash) ]

/-- The metadata as a JSON value. -/
def toJson (metadata : ChunkMetadata) : Value :=
  .object metadata.members

/-- Read metadata from a document. -/
def ofDocument? (document : Document) : Option ChunkMetadata := do
  match ← document.fields? fieldNames with
  | [absolutePath, relativePath, scopeName, containerName, memberName, kind, language,
      startLine, endLine, contentHash] =>
    pure
      { absolutePath := ⟨← (← absolutePath).text?⟩
        relativePath := ← (← relativePath).text?
        scopeName := ← Document.optional? Document.text? scopeName
        containerName := ← Document.optional? Document.text? containerName
        memberName := ← Document.optional? Document.text? memberName
        kind := ← ChunkKind.ofName? (← (← kind).caseName?)
        language := ← (← language).text?
        startLine := ← (← startLine).natural? greatestWord
        endLine := ← (← endLine).natural? greatestWord
        contentHash := ← (← contentHash).text? }
  | _ => none

end ChunkMetadata

namespace Chunk

/-- The names of the fields, in order. -/
def fieldNames : List String := ["id", "content", "metadata"]

/-- The chunk as a JSON value. -/
def toJson (chunk : Chunk) : Value :=
  .object
    [ ("id", .text chunk.id),
      ("content", .text chunk.content),
      ("metadata", chunk.metadata.toJson) ]

/-- The chunk as compact JSON. -/
def encode (chunk : Chunk) : String :=
  chunk.toJson.compact

/-- Read a chunk from a document. -/
def ofDocument? (document : Document) : Option Chunk := do
  match ← document.fields? fieldNames with
  | [id, content, metadata] =>
    pure
      { id := ← (← id).text?
        content := ← (← content).text?
        metadata := ← ChunkMetadata.ofDocument? (← metadata) }
  | _ => none

/-- Read a chunk from JSON. -/
def decode? (text : String) : Option Chunk :=
  (Document.ofText? text).bind ofDocument?

end Chunk

end SourceHarvest
