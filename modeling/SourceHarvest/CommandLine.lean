import SourceHarvest.Configuration.EnvironmentFile
import SourceHarvest.Embedding.Ollama
import SourceHarvest.Embedding.OpenAI
import SourceHarvest.Ingestion.Run
import SourceHarvest.VectorStore.Milvus

/-!
# The command line

The program indexes one source tree.  Its only argument is the root; everything else is
set by environment variables and environment files.  It prints one line about the run, or
one about the failure that ended it.
-/

namespace SourceHarvest.CommandLine

/-- What the program is started with. -/
structure Invocation where
  arguments : List String
  environment : Variables

/-- What the program leaves: its exit code and the texts that it prints. -/
structure Exit where
  code : Nat
  output : String
  error : Option String
deriving DecidableEq, Repr

/-- The variables that hold settings. -/
def settingVariables : List String :=
  ["INGEST_ROOT", "INGEST_EXTENSIONS", "INGEST_EXCLUDE_DIRS", "INGEST_MAX_DEPTH",
    "INGEST_BATCH_SIZE", "INGEST_CONCURRENCY", "INGEST_MAX_CHUNK_SIZE", "INGEST_CHUNK_OVERLAP",
    "INGEST_HARD_TOKEN_LIMIT", "INGEST_WHOLE_FILE_FALLBACK", "INGEST_EVICT_STALE",
    "INGEST_FORCE", "INGEST_CACHE_PATH", "INGEST_LOG_FILE", "EMBEDDING_PROVIDER", "OLLAMA_HOST",
    "EMBEDDING_MODEL", "OPENAI_API_KEY", "EMBEDDING_BATCH_SIZE", "MILVUS_ADDRESS",
    "MILVUS_COLLECTION"] ++
  Language.all.map fun language => Environment.unitsKey language.tag

/-- The provider of embeddings that the settings ask for. -/
def provider {σ : Type} (settings : EmbeddingSettings) (transport : Http.Transport σ) :
    EmbeddingProvider σ :=
  match settings.backend with
  | .ollama => (Ollama.mk settings.ollamaHost settings.model).provider transport
  | .openai =>
      (OpenAI.mk (settings.openaiKey.getD "") settings.model settings.batchSize).provider transport

/-- The services of a run over a transport. -/
def services {σ : Type} (configuration : Configuration) (grammar : Grammar)
    (transport : Http.Transport σ) : Services σ :=
  let provider := provider configuration.embedding transport
  let store : Milvus :=
    ⟨configuration.store.address, configuration.store.collection, provider.dimension⟩
  { extensions := Language.extensions
    parse := grammar.parse
    embed := fun texts => (provider.embedBatch texts).run
    connect := (store.connect transport).run
    upsert := fun chunks embeddings => (store.upsert transport chunks embeddings).run
    deleteFile := fun relativePath => (store.deleteFile transport relativePath).run }

/-- The configuration of an invocation in a file tree. -/
def configuration (invocation : Invocation) (tree : FileTree) :
    Except Failure Configuration := do
  let assigned ← EnvironmentFile.loadAll tree invocation.environment
  let places := Ignore.PersonalRules.Places.ofVariables (assigned.lookup ·)
  let found ← Configuration.ofEnvironment (assigned.lookup ·)
    (invocation.arguments.head?.map Path.mk) places.home (Path.ofNames tree.workingDirectory)
  pure { found with ignoreFile := Ignore.PersonalRules.file? tree places }

/-- Index the source tree that an invocation names. -/
def run {σ : Type} (invocation : Invocation) (grammar : Grammar) (transport : Http.Transport σ)
    (session : Session) : Action σ RunSummary := do
  let found ← Action.lookingAtFiles (configuration invocation)
  match found.logFile with
  | some path => Action.changingFiles (OutcomeLog.start path)
  | none => pure ()
  Ingestion.run (services found grammar transport) { session with log := found.logFile } found

/-- The units of time that a span is told in, largest first, with their nanoseconds. -/
def timeUnits : List (String × Nat) :=
  [("s", 1000000000), ("ms", 1000000), ("µs", 1000), ("ns", 1)]

/-- A span of time in the largest unit that it fills, with two places behind the point. -/
def elapsedText (nanoseconds : Nat) : String :=
  let (unit, size) := (timeUnits.find? fun row => row.2 ≤ nanoseconds).getD ("ns", 1)
  let hundredths := (200 * nanoseconds + size) / (2 * size)
  let places := hundredths % 100
  s!"{hundredths / 100}." ++ (if places < 10 then "0" else "") ++ toString places ++ unit

/-- What the program prints about a run that took some time. -/
def summaryLine (summary : RunSummary) (elapsed : String) : String :=
  s!"Processed {summary.processed} files, skipped {summary.skipped}, {summary.errors} errors, {summary.chunksCreated} chunks created in {elapsed}\n"

/-- What the program prints about a failure. -/
def errorText (failure : Failure) : String :=
  "Error: " ++ failure.outermost.text

/-- The exit code of a failure.  A variable that cannot be set breaks the program off. -/
def exitCode (failure : Failure) : Nat :=
  match failure.outermost with
  | .unsettable _ => 101
  | _ => 1

/-- What the program leaves after a run.  One that is broken off says nothing about it. -/
def exit (result : Except Failure RunSummary) (elapsed : String) : Exit :=
  match result with
  | .ok summary => { code := 0, output := summaryLine summary elapsed, error := none }
  | .error failure =>
      let code := exitCode failure
      { code, output := "", error := if code = 1 then some (errorText failure) else none }

end SourceHarvest.CommandLine
