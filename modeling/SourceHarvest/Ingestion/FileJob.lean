import SourceHarvest.Failure.Status
import SourceHarvest.Ingestion.Chunking
import SourceHarvest.Ingestion.Tracking

/-!
# Work on one file

A file whose fingerprint is up to date is skipped.  Any other file is read, parsed, cut
into chunks and embedded; only then are its old chunks dropped from the store and the
new ones put in.  What goes wrong on the way becomes the outcome of the file and nothing
else.
-/

namespace SourceHarvest

/-- How the work on a file ended. -/
inductive FileOutcome where
  | skipped
  | processed (chunkCount : Nat)
  | failed (status : Status) (message : String)
deriving DecidableEq, Repr

namespace FileOutcome

/-- The status of an outcome. -/
def status : FileOutcome → Status
  | skipped => .skipped
  | processed _ => .success
  | failed status _ => status

end FileOutcome

/-- What the work on a file hands back. -/
structure FileReport where
  path : Path
  outcome : FileOutcome
  fingerprint : Option Fingerprint
  dropped : Nat
deriving DecidableEq, Repr

namespace FileJob

/-- The path of a file from the root, with slashes in place of backslashes; the path as it
is for a file outside the root. -/
def relativePath (root path : Path) : String :=
  let below := (root.below? path).getD path
  String.ofList (below.text.toList.map fun c => if c = '\\' then '/' else c)

/-- The text of a source file. -/
def readSource (path : Path) : ExceptT Failure Job String := do
  let content ← Tracking.readBytes path "Failed to read source file"
  match String.fromUTF8? content with
  | some source => pure source
  | none => throw ((Failure.ofFile .notText).context "Failed to read source file")

/-- Ask a question whose answer can be a failure; `purpose` says what it was for. -/
def attempt {α : Type} (answer : Job (Except Failure α)) (purpose : String) :
    ExceptT Failure Job α :=
  ExceptT.mk ((Failure.during purpose) <$> answer)

/-- The vectors of chunks, one for each. -/
def embed (chunks : List Chunk) : ExceptT Failure Job (List Embedding) :=
  if chunks.isEmpty then pure []
  else do
    let texts := chunks.map (·.content)
    let embeddings ← attempt (Job.question (.embed texts)) "Embedding request failed"
    if embeddings.length = texts.length then pure embeddings
    else
      throw (Failure.ofMessage
        s!"Embedding provider returned {embeddings.length} vectors for {texts.length} inputs")

/-- Drop the old chunks of a file from the store where it has some. -/
def evict (needed : Bool) (relativePath : String) : ExceptT Failure Job Unit :=
  if needed then
    attempt (Job.question (.evict relativePath)) "Failed to evict stale rows from vector store"
  else pure ()

/-- Put chunks into the store if there are any. -/
def upsert (chunks : List Chunk) (embeddings : List Embedding) : ExceptT Failure Job Unit :=
  if chunks.isEmpty then pure ()
  else attempt (Job.question (.upsert chunks embeddings)) "Vector store upsert failed"

/-- Index a file: its new fingerprint, and how many chunks were dropped. -/
def ingest (configuration : Configuration) (root path : Path) (indexedBefore : Bool) :
    ExceptT Failure Job (Fingerprint × Nat) := do
  let lastModified ← Tracking.modifiedMillis path
  let source ← readSource path
  let parsed ← ExceptT.mk (Job.question (.parse path source))
  let relative := relativePath root path
  let bounded ← ExceptT.mk (pure (BoundedChunks.ofParsed configuration path relative parsed))
  let embeddings ← embed bounded.chunks
  evict (indexedBefore && configuration.evictStale) relative
  upsert bounded.chunks embeddings
  let chunkCount := bounded.chunks.length
  pure ({ hash := contentHash (utf8Bytes source), lastModified, chunkCount }, bounded.dropped)

/-- The report on a file after an attempt to index it. -/
def report (path : Path) : Except Failure (Fingerprint × Nat) → FileReport
  | .ok (fingerprint, dropped) =>
      { path, outcome := .processed fingerprint.chunkCount, fingerprint := some fingerprint, dropped }
  | .error failure =>
      { path, outcome := .failed (Status.ofFailure failure) failure.text, fingerprint := none,
        dropped := 0 }

/-- All work on a file, given the fingerprints from before. -/
def process (configuration : Configuration) (ledger : Ledger) (root path : Path) :
    Job FileReport := do
  let due ← if configuration.force then pure true else Tracking.hasChanged ledger path
  if due then
    let result ← (ingest configuration root path (ledger.has path)).run
    pure (report path result)
  else pure { path, outcome := .skipped, fingerprint := none, dropped := 0 }

end FileJob

end SourceHarvest
