import SourceHarvest.Chunk.Codec
import SourceHarvest.Embedding.Basic
import SourceHarvest.Http.Exchange

/-!
# The vector store Milvus

Chunks are rows of a collection that is reached over HTTP.  Every reply is an envelope
with a code, of which zero alone is good, whatever the status of the reply.  A row holds
the metadata of its chunk field by field, so a hit of a search gives the chunk back.
-/

namespace SourceHarvest

open Http Json

/-- Where the store is, the collection in it, and the size of its vectors. -/
structure Milvus where
  address : String
  collection : String
  dimension : Nat
deriving DecidableEq, Repr

/-- A row that a search found. -/
structure SearchHit where
  id : String
  /-- How near the row is, as a single-precision number. -/
  score : Numeric.Binary
  metadata : Value

namespace Milvus

/-- The greatest length of an id. -/
def greatestIdLength : Nat := 64

/-- The address without slashes at its end. -/
def base (store : Milvus) : String :=
  withoutFinalSlashes store.address

/-- The address of one operation. -/
def url (store : Milvus) (path : String) : String :=
  store.base ++ "/v2/vectordb/" ++ path

/-! ### Envelopes -/

/-- What a reply holds. -/
structure Envelope (α : Type) where
  code : Int
  message : Option String
  data : Option α

/-- Read an envelope whose data is read in a given way. -/
def Envelope.ofDocument? {α : Type} (read : Document → Option α) (document : Document) :
    Option (Envelope α) := do
  match ← document.fields? ["code", "message", "data"] with
  | [code, message, data] =>
    pure
      { code := ← (← code).integer?
        message := ← Document.optional? Document.text? message
        data := ← Document.optional? read data }
  | _ => none

/-- Any data, one level down in an envelope. -/
def anyData? : Document → Option Value :=
  Document.value? (Document.greatestDepth - 1)

/-- Whether a collection is there. -/
def hasData? (document : Document) : Option Bool := do
  match ← document.fields? ["has"] with
  | [has] => (← has).boolean?
  | _ => none

/-- The hits of a search, each an object. -/
def hitData? : Document → Option (List (List (String × Value))) :=
  Document.listOf? (Document.mapOf? (Document.value? (Document.greatestDepth - 3)))

/-- Post to one operation and take the data out of the envelope that comes back. -/
def call {σ α : Type} (store : Milvus) (transport : Transport σ) (path : String) (body : Value)
    (operation : String) (read : Document → Option α) : Exchange σ (Option α) := do
  let reply ← post transport (store.url path) body s!"Failed to send Milvus {operation} request"
  if reply.isSuccess then
    let envelope ← decode (Envelope.ofDocument? read) reply
      s!"Failed to decode Milvus {operation} response"
    if envelope.code = 0 then pure envelope.data
    else
      let words := envelope.message.getD ""
      throw (Failure.ofMessage s!"Milvus {operation} error (code {envelope.code}): {words}")
  else
    throw (Failure.ofMessage s!"Milvus {operation} error ({reply.statusText}): {reply.words}")

/-! ### Operations -/

/-- The name of the collection as a member of a request. -/
def collectionMember (store : Milvus) : String × Value :=
  ("collectionName", .text store.collection)

/-- The store answers. -/
def healthCheck {σ : Type} (store : Milvus) (transport : Transport σ) : StateM σ Bool := do
  match ← (store.call transport "collections/list" (.object []) "list collections" anyData?).run with
  | .ok _ => pure true
  | .error _ => pure false

/-- The store says that the collection is there. -/
def hasCollection {σ : Type} (store : Milvus) (transport : Transport σ) : Exchange σ Bool := do
  let found ← store.call transport "collections/has" (.object [store.collectionMember])
    "has collection" hasData?
  pure (found.getD false)

/-- The request for a new collection. -/
def creation (store : Milvus) : Value :=
  .object
    [ store.collectionMember,
      ("dimension", .ofNat store.dimension),
      ("metricType", .text "COSINE"),
      ("idType", .text "VarChar"),
      ("primaryFieldName", .text "id"),
      ("vectorFieldName", .text "vector"),
      ("params", .object [("max_length", .ofNat greatestIdLength)]) ]

/-- Make the collection. -/
def createCollection {σ : Type} (store : Milvus) (transport : Transport σ) : Exchange σ Unit := do
  let _ ← store.call transport "collections/create" store.creation "create collection" anyData?

/-- Make sure that the store can be reached and that the collection is there. -/
def connect {σ : Type} (store : Milvus) (transport : Transport σ) : Exchange σ Unit := do
  let healthy ← ExceptT.lift (store.healthCheck transport)
  if healthy then
    let found ← store.hasCollection transport
    if found then pure () else store.createCollection transport
  else throw (Failure.ofMessage s!"Milvus is not reachable at {store.base}")

/-- The row of a chunk. -/
def row (chunk : Chunk) (embedding : Embedding) : Value :=
  .object
    ([ ("id", .text chunk.id),
       ("vector", embedding.toDoubles),
       ("content", .text chunk.content) ] ++ chunk.metadata.members)

/-- Put chunks into the collection, each with its vector. -/
def upsert {σ : Type} (store : Milvus) (transport : Transport σ) (chunks : List Chunk)
    (embeddings : List Embedding) : Exchange σ Unit := do
  if chunks.length ≠ embeddings.length then
    throw (Failure.ofMessage
      s!"Milvus upsert given {chunks.length} rows but {embeddings.length} vectors")
  else if chunks.isEmpty then pure ()
  else
    let rows := List.zipWith row chunks embeddings
    let _ ← store.call transport "entities/upsert"
      (.object [store.collectionMember, ("data", .array rows)]) "upsert" anyData?

/-- A text between quotes in a filter: quotes and backslashes stand behind a backslash. -/
def escapeFilter (text : List Char) : List Char :=
  text.flatMap fun c => if c = '\\' ∨ c = '"' then ['\\', c] else [c]

/-- The filter for the rows of a file. -/
def pathFilter (relativePath : String) : String :=
  "relative_path == \"" ++ String.ofList (escapeFilter relativePath.toList) ++ "\""

/-- Drop the rows of a file. -/
def deleteFile {σ : Type} (store : Milvus) (transport : Transport σ) (relativePath : String) :
    Exchange σ Unit := do
  let _ ← store.call transport "entities/delete"
    (.object [store.collectionMember, ("filter", .text (pathFilter relativePath))]) "delete" anyData?

/-- The members of a hit without one of them. -/
def withoutMember (name : String) (members : List (String × Value)) : List (String × Value) :=
  members.filter fun member => member.1 != name

/-- The id of a hit: a text as it is, anything else as JSON, and nothing where it is missing. -/
def hitId (members : List (String × Value)) : String :=
  match members.lookup "id" with
  | some (.text id) => id
  | some other => other.compact
  | none => ""

/-- The distance of a hit; what is no number counts as zero. -/
def hitScore (members : List (String × Value)) : Numeric.Binary :=
  match members.lookup "distance" with
  | some (.number distance) => (distance.toBinary .double).convert .single
  | _ => Numeric.Format.single.ofNat 0

/-- What a search found, taken apart. -/
def searchHit (members : List (String × Value)) : SearchHit :=
  { id := hitId members
    score := hitScore members
    metadata := .object (withoutMember "distance" (withoutMember "id" members)) }

/-- The rows nearest to a vector. -/
def query {σ : Type} (store : Milvus) (transport : Transport σ) (embedding : Embedding)
    (limit : Nat) : Exchange σ (List SearchHit) := do
  let body : Value := .object
    [ store.collectionMember,
      ("data", .array [embedding.toSingles]),
      ("annsField", .text "vector"),
      ("limit", .ofNat limit),
      ("outputFields", .array [.text "*"]) ]
  let found ← store.call transport "entities/search" body "search" hitData?
  pure ((found.getD []).map searchHit)

end Milvus

end SourceHarvest
