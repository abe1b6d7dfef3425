import SourceHarvest.Configuration.Basic
import SourceHarvest.Json.Basic
import SourceHarvest.Text.Blank

/-!
# Configuration from the environment

Every setting has a key in the environment.  The settings are read in a fixed order,
and the first value that is unacceptable by itself decides the failure; the checks of
settings against each other come last.
-/

namespace SourceHarvest

/-- The value of each key that is set. -/
abbrev Environment := String → Option String

namespace Environment

/-- The natural number of 64 bits that digits after an optional plus sign stand for. -/
def wordOfText? (text : String) : Option Nat :=
  let digits := match text.toList with
    | '+' :: rest => rest
    | all => all
  if digits.isEmpty || !digits.all Char.isDigit then none
  else
    let value := digits.foldl (fun value digit => 10 * value + (digit.toNat - 48)) 0
    if value ≤ Json.greatestWord then some value else none

/-- The truth value that a word stands for. -/
def booleanOfText? (text : String) : Option Bool :=
  if text = "true" then some true else if text = "false" then some false else none

/-- The items of a list that are not blank, trimmed. -/
def listOfText (text : String) : List String :=
  ((Text.splitAtMark ',' text.toList).map Text.trimBlanks).filterMap fun item =>
    if item.isEmpty then none else some (String.ofList item)

/-- A setting that is read from text, or its default where the key is not set. -/
def setting {α : Type} (environment : Environment) (key : String) (read : String → Option α)
    (fallback : α) : Except Failure α :=
  match environment key with
  | none => .ok fallback
  | some value =>
      match read (Text.trim value) with
      | some found => .ok found
      | none => Configuration.reject s!"{key} has invalid value '{value}'"

/-- The extensions of a list: without dots in front and in lowercase. -/
def extensionsOfText (text : String) : List String :=
  (listOfText text).map Path.plainExtension

/-- The key under which the units of a language are set. -/
def unitsKey (language : String) : String :=
  "INGEST_SEMANTIC_UNITS_" ++ Text.uppercase language

/-- The service that is asked for. -/
def backend (environment : Environment) : Except Failure EmbeddingBackend :=
  match environment "EMBEDDING_PROVIDER" with
  | none => .ok .ollama
  | some value =>
      let name := Text.lowercase (Text.trim value)
      if name = "ollama" then .ok .ollama
      else if name = "openai" then .ok .openai
      else
        Configuration.reject s!"EMBEDDING_PROVIDER must be 'ollama' or 'openai', got '{name}'"

/-- How embeddings are computed.  The default model depends on the service. -/
def embedding (environment : Environment) (fallback : EmbeddingSettings) :
    Except Failure EmbeddingSettings := do
  let backend ← environment.backend
  let model := match backend with
    | .ollama => fallback.model
    | .openai => "text-embedding-3-small"
  let batchSize ← environment.setting "EMBEDDING_BATCH_SIZE" wordOfText? fallback.batchSize
  pure
    { backend
      ollamaHost := (environment "OLLAMA_HOST").getD fallback.ollamaHost
      model := (environment "EMBEDDING_MODEL").getD model
      openaiKey := environment "OPENAI_API_KEY"
      batchSize }

/-- The root directory: one that is given, else one that is set, else the current one. -/
def root (environment : Environment) (given : Option Path) (current : Path) : Path :=
  match given with
  | some path => path
  | none => ((environment "INGEST_ROOT").map Path.mk).getD current

/-- The home directory; without one, a directory for what may get lost. -/
def homeOr (home : Option String) : Path :=
  ⟨home.getD "/tmp"⟩

end Environment

namespace Configuration

/-- The configuration that an environment asks for, before its settings are checked
against each other. -/
def readSettings (environment : Environment) (root home : Path) :
    Except Failure Configuration := do
  let base := default root home
  let greatestDepth ← environment.setting "INGEST_MAX_DEPTH" Environment.wordOfText? base.greatestDepth
  let batchSize ← environment.setting "INGEST_BATCH_SIZE" Environment.wordOfText? base.batchSize
  let concurrency ← environment.setting "INGEST_CONCURRENCY" Environment.wordOfText? base.concurrency
  let greatest ← environment.setting "INGEST_MAX_CHUNK_SIZE" Environment.wordOfText? base.window.greatest
  let overlap ← environment.setting "INGEST_CHUNK_OVERLAP" Environment.wordOfText? base.window.overlap
  let hardTokenLimit ←
    environment.setting "INGEST_HARD_TOKEN_LIMIT" Environment.wordOfText? base.hardTokenLimit
  let wholeFileFallback ←
    environment.setting "INGEST_WHOLE_FILE_FALLBACK" Environment.booleanOfText? base.wholeFileFallback
  let evictStale ← environment.setting "INGEST_EVICT_STALE" Environment.booleanOfText? base.evictStale
  let force ← environment.setting "INGEST_FORCE" Environment.booleanOfText? base.force
  let embedding ← environment.embedding base.embedding
  pure
    { root
      extensions :=
        ((environment "INGEST_EXTENSIONS").map Environment.extensionsOfText).getD base.extensions
      excludedNames :=
        ((environment "INGEST_EXCLUDE_DIRS").map Environment.listOfText).getD base.excludedNames
      greatestDepth
      ignoreFile := base.ignoreFile
      batchSize, concurrency
      window := ⟨greatest, overlap⟩
      hardTokenLimit
      cachePath := ((environment "INGEST_CACHE_PATH").map Path.mk).getD base.cachePath
      wholeFileFallback, evictStale, force
      logFile := (environment "INGEST_LOG_FILE").map Path.mk
      units := base.units.map fun (language, units) =>
        (language,
          ((environment (Environment.unitsKey language)).map Environment.listOfText).getD units)
      embedding
      store :=
        { address := (environment "MILVUS_ADDRESS").getD base.store.address
          collection := (environment "MILVUS_COLLECTION").getD base.store.collection } }

/-- The configuration that an environment asks for.  A given root comes before the one that
is set, and this one before the current directory. -/
def ofEnvironment (environment : Environment) (given : Option Path) (home : Option String)
    (current : Path) : Except Failure Configuration := do
  let configuration ←
    readSettings environment (environment.root given current) (Environment.homeOr home)
  configuration.validate
  pure configuration

end Configuration

end SourceHarvest
