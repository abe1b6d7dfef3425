import SourceHarvest.Chunk.Basic
import SourceHarvest.Digest.Md5
import SourceHarvest.Digest.Sha256
import SourceHarvest.Text.Slice

/-!
# Chunk ids

The id of a chunk is the MD5 digest of nine fields: where the chunk stands, what it
is, the start of its content's hash, and its place among the chunks of its file.
Every field is written after its length, so no two lists of fields have the same
encoding.
-/

namespace SourceHarvest

/-- The bytes of a text. -/
def utf8Bytes (text : String) : List UInt8 :=
  text.toUTF8.toList

/-- The SHA-256 digest of bytes, in hexadecimal. -/
def contentHash (content : List UInt8) : String :=
  Digest.Sha256.hexDigest content

namespace ChunkId

/-- How many bytes of a content hash go into an id. -/
def hashPartSize : Nat := 16

/-- The first bytes of a content hash; the whole hash where they are no text. -/
def hashPart (hash : String) : String :=
  match Text.slice? hash.toList 0 hashPartSize with
  | some part => String.ofList part
  | none => hash

/-- The fields that tell chunks apart. -/
def fields (metadata : ChunkMetadata) (hash : String) (ordinal : Nat) : List String :=
  [ metadata.relativePath,
    metadata.scopeName.getD "",
    metadata.containerName.getD "",
    metadata.memberName.getD "",
    metadata.kind.name,
    toString metadata.startLine,
    toString metadata.endLine,
    hashPart hash,
    toString ordinal ]

/-- One field behind its length in bytes. -/
def encodeField (field : String) : List UInt8 :=
  utf8Bytes (toString field.utf8ByteSize) ++ 58 :: utf8Bytes field

/-- The bytes that the digest is taken of. -/
def encode (metadata : ChunkMetadata) (hash : String) (ordinal : Nat) : List UInt8 :=
  (fields metadata hash ordinal).flatMap encodeField

/-- The id of a chunk. -/
def build (metadata : ChunkMetadata) (hash : String) (ordinal : Nat) : String :=
  Digest.Md5.hexDigest (encode metadata hash ordinal)

end ChunkId

/-- The chunk with the id that its place gives it. -/
def ExtractedChunk.withOrdinal (extracted : ExtractedChunk) (ordinal : Nat) : Chunk :=
  { id := ChunkId.build extracted.metadata extracted.metadata.contentHash ordinal
    content := extracted.content
    metadata := extracted.metadata }

/-- Give chunks the ids of their places. -/
def assignIds (extracted : List ExtractedChunk) : List Chunk :=
  extracted.zipIdx.map fun placed => placed.1.withOrdinal placed.2

theorem length_assignIds (extracted : List ExtractedChunk) :
    (assignIds extracted).length = extracted.length := by
  simp [assignIds]

end SourceHarvest
