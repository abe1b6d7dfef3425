import SourceHarvest.Failure.Basic
import SourceHarvest.Text.Search

/-!
# The status of a file

Every file of a run ends in one status.  The status of a failed file is read off the
words of its failure: there is a table of phrases, and the first status with a phrase
among the words is taken.  Three causes of the core have a status by their type.
-/

namespace SourceHarvest

/-- How a file ended: in one of two good ways, or in a kind of failure. -/
inductive Status where
  | success
  | skipped
  | parseError
  | chunkError
  | embeddingError
  | storageError
  | rateLimit
  | tokenLimit
  | unknownError
deriving DecidableEq, Repr

namespace Status

/-- The name of a status in records. -/
def name : Status → String
  | success => "SUCCESS"
  | skipped => "SKIPPED"
  | parseError => "PARSE_ERROR"
  | chunkError => "CHUNK_ERROR"
  | embeddingError => "EMBEDDING_ERROR"
  | storageError => "STORAGE_ERROR"
  | rateLimit => "RATE_LIMIT"
  | tokenLimit => "TOKEN_LIMIT"
  | unknownError => "UNKNOWN_ERROR"

/-- The status with a given name. -/
def ofName? (name : String) : Option Status :=
  [success, skipped, parseError, chunkError, embeddingError, storageError, rateLimit,
    tokenLimit, unknownError].find? (·.name == name)

/-- The phrases that tell a status, in the order in which they are looked for. -/
def rules : List (Status × List String) :=
  [ (tokenLimit,
      ["maximum context length", "context length", "context_length_exceeded", "token limit",
        "too many tokens"]),
    (rateLimit, ["429", "rate limit", "rate_limit", "ratelimit", "too many requests"]),
    (parseError, ["parse", "syntax"]),
    (chunkError, ["chunk"]),
    (embeddingError, ["embed"]),
    (storageError, ["upsert", "storage", "vector store", "milvus", "collection"]) ]

/-- The lowercase form of a character as far as it has letters of ASCII in it: two letters
outside ASCII have one. -/
def foldChar (c : Char) : List Char :=
  if c = '\u212a' then ['k']
  else if c = '\u0130' then ['i', '\u0307']
  else [c.toLower]

/-- A text in lowercase, as far as phrases in ASCII are concerned. -/
def fold (text : String) : List Char :=
  text.toList.flatMap foldChar

/-- The rule has a phrase that occurs in a folded text. -/
def ruleMatches (text : List Char) (rule : Status × List String) : Bool :=
  rule.2.any fun phrase => Text.occursIn phrase.toList text

/-- The status that words tell. -/
def classify (message : String) : Status :=
  match rules.find? (ruleMatches (fold message)) with
  | some rule => rule.1
  | none => unknownError

/-- The status of a failure: by the type of its outermost typed cause where that tells it,
else by its words. -/
def ofFailure (failure : Failure) : Status :=
  match failure.typed? with
  | some (.emptySyntaxTree _) => parseError
  | some (.invalidSplit ..) => chunkError
  | some (.storeUnavailable _) => storageError
  | _ => classify failure.text

theorem ofName?_name (status : Status) : ofName? status.name = some status := by
  cases status <;> decide

end Status

end SourceHarvest
