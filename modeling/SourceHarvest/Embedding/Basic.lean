import SourceHarvest.Failure.Basic
import SourceHarvest.Json.Decode
import SourceHarvest.Numeric.Binary

/-!
# Embeddings

An embedding is a list of single-precision numbers that stands for a text.  A provider
computes the embeddings of several texts over some state of the world outside.
-/

namespace SourceHarvest

/-- The vector of a text. -/
structure Embedding where
  values : List Numeric.Binary
deriving DecidableEq, Repr

namespace Embedding

/-- Read the numbers of a vector from a document. -/
def ofDocument? (document : Json.Document) : Option Embedding :=
  (document.listOf? (Json.Document.binary? .single)).map Embedding.mk

/-- The vector as JSON, each number as the double that it is. -/
def toDoubles (embedding : Embedding) : Json.Value :=
  .array (embedding.values.map fun value => .ofBinary .double (value.convert .double))

/-- The vector as JSON, each number as the single that it is. -/
def toSingles (embedding : Embedding) : Json.Value :=
  .array (embedding.values.map (.ofBinary .single))

end Embedding

/-- A service that computes embeddings of one size. -/
structure EmbeddingProvider (σ : Type) where
  dimension : Nat
  embed : String → ExceptT Failure (StateM σ) Embedding
  embedBatch : List String → ExceptT Failure (StateM σ) (List Embedding)

end SourceHarvest
