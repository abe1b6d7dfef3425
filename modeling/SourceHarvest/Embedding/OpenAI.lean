import SourceHarvest.Blocks
import SourceHarvest.Embedding.Basic
import SourceHarvest.Http.Exchange

/-!
# Embeddings from OpenAI

Texts are sent in batches.  While the service answers that there are too many requests, a
batch is sent again, up to a greatest number of times.  The vectors of a batch come with
the places of their texts and are put in that order.
-/

namespace SourceHarvest

open Http Json

/-- The key of the account, the model, and how many texts go into one request. -/
structure OpenAI where
  key : String
  model : String
  batchSize : Nat
deriving DecidableEq, Repr

namespace OpenAI

/-- The address that texts are sent to. -/
def endpoint : String := "https://api.openai.com/v1/embeddings"

/-- The status of too many requests. -/
def tooManyRequests : Nat := 429

/-- How often a batch is sent again. -/
def greatestRetries : Nat := 3

/-- The size of the vectors of a model. -/
def dimension (service : OpenAI) : Nat :=
  if service.model = "text-embedding-3-large" then 3072 else 1536

/-- A vector with the place of its text in the batch. -/
structure Placed where
  index : Nat
  embedding : Embedding
deriving DecidableEq, Repr

/-- Read a vector with its place. -/
def Placed.ofDocument? (document : Document) : Option Placed := do
  match ← document.fields? ["index", "embedding"] with
  | [index, embedding] =>
    pure
      { index := ← (← index).natural? greatestWord
        embedding := ← Embedding.ofDocument? (← embedding) }
  | _ => none

/-- Read the reply to a batch. -/
def readReply? (document : Document) : Option (List Placed) := do
  match ← document.fields? ["data"] with
  | [data] => (← data).listOf? Placed.ofDocument?
  | _ => none

/-- Vectors in the order of their places. -/
def inOrder (found : List Placed) : List Embedding :=
  (found.mergeSort fun left right => decide (left.index ≤ right.index)).map (·.embedding)

/-- The request for a batch. -/
def request (service : OpenAI) (texts : List String) : Except Obstacle HttpRequest :=
  let authorization := "Bearer " ++ service.key
  if isHeaderValue authorization then
    .ok
      { method := "POST"
        url := endpoint
        authorization := some authorization
        body := Value.compact
          (.object [("model", .text service.model), ("input", .array (texts.map .text))]) }
  else .error .unusableHeader

/-- Send a request, and send it again while there are too many and retries are left. -/
def sendUpTo {σ : Type} (transport : Transport σ) (request : HttpRequest) :
    Nat → σ → Option HttpReply × σ
  | 0, state => transport request state
  | retries + 1, state =>
      match transport request state with
      | (some reply, next) =>
          if reply.status = tooManyRequests then sendUpTo transport request retries next
          else (some reply, next)
      | (none, next) => (none, next)

/-- The last reply to a batch. -/
def send {σ : Type} (service : OpenAI) (transport : Transport σ) (texts : List String) :
    Exchange σ HttpReply :=
  sendOver (sendUpTo transport · greatestRetries ·) (service.request texts)
    "Failed to send embedding request to OpenAI"

/-- The vectors of one batch. -/
def embedOnce {σ : Type} (service : OpenAI) (transport : Transport σ) (texts : List String) :
    Exchange σ (List Embedding) := do
  let reply ← service.send transport texts
  if reply.isSuccess then
    let found ← decode readReply? reply "Failed to decode OpenAI embedding response"
    pure (inOrder found)
  else
    throw (Failure.ofMessage
      s!"OpenAI embedding API error ({reply.statusText}): {reply.words}")

/-- The vectors of any number of texts, batch after batch. -/
def embedBatch {σ : Type} (service : OpenAI) (transport : Transport σ) (texts : List String) :
    Exchange σ (List Embedding) :=
  (·.flatten) <$> (blocksOf (service.batchSize - 1) texts).mapM (service.embedOnce transport)

/-- The vector of a text. -/
def embed {σ : Type} (service : OpenAI) (transport : Transport σ) (text : String) :
    Exchange σ Embedding := do
  match ← service.embedBatch transport [text] with
  | first :: _ => pure first
  | [] => throw (Failure.ofMessage "No embedding returned")

/-- The provider over a transport. -/
def provider {σ : Type} (service : OpenAI) (transport : Transport σ) : EmbeddingProvider σ :=
  { dimension := service.dimension
    embed := service.embed transport
    embedBatch := service.embedBatch transport }

end OpenAI

end SourceHarvest
