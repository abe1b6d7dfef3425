import SourceHarvest.Embedding.Basic
import SourceHarvest.Http.Exchange
import SourceHarvest.Text.Search

/-!
# Embeddings from Ollama

The service takes one text at a time, so several texts are sent one after the other, and
the first failure ends the work.
-/

namespace SourceHarvest

open Http Json

/-- Where the service is, and the model that it uses. -/
structure Ollama where
  host : String
  model : String
deriving DecidableEq, Repr

namespace Ollama

/-- The sizes of the vectors of known models, by a part of their names. -/
def dimensions : List (String × Nat) :=
  [("nomic", 768), ("mxbai", 1024), ("all-minilm", 384)]

/-- The size of the vectors of a model. -/
def dimension (service : Ollama) : Nat :=
  match dimensions.find? fun row => Text.occursIn row.1.toList service.model.toList with
  | some row => row.2
  | none => 768

/-- The address that texts are sent to. -/
def endpoint (service : Ollama) : String :=
  withoutFinalSlashes service.host ++ "/api/embeddings"

/-- Read the reply to a text. -/
def readReply? (document : Document) : Option Embedding := do
  match ← document.fields? ["embedding"] with
  | [embedding] => Embedding.ofDocument? (← embedding)
  | _ => none

/-- The vector of a text. -/
def embed {σ : Type} (service : Ollama) (transport : Transport σ) (text : String) :
    Exchange σ Embedding := do
  let body : Value := .object [("model", .text service.model), ("prompt", .text text)]
  let reply ← post transport service.endpoint body
    "Failed to send embedding request to Ollama"
  if reply.isSuccess then
    decode readReply? reply "Failed to decode Ollama embedding response"
  else
    throw (Failure.ofMessage
      s!"Ollama embedding API error ({reply.statusText}): {reply.words}")

/-- The provider over a transport. -/
def provider {σ : Type} (service : Ollama) (transport : Transport σ) : EmbeddingProvider σ :=
  { dimension := service.dimension
    embed := service.embed transport
    embedBatch := fun texts => texts.mapM (service.embed transport) }

end Ollama

end SourceHarvest
