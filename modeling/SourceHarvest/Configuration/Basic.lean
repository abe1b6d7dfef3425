import SourceHarvest.Chunk.Windows
import SourceHarvest.Syntax.Language

/-!
# Configuration of a run

A configuration is complete: every setting has a value, and what nobody sets has its
default.  Settings under which a run would stall are rejected by `validate`.
-/

namespace SourceHarvest

/-- Which service computes embeddings. -/
inductive EmbeddingBackend where
  | ollama
  | openai
deriving DecidableEq, Repr

/-- How embeddings are computed. -/
structure EmbeddingSettings where
  backend : EmbeddingBackend
  ollamaHost : String
  model : String
  openaiKey : Option String
  batchSize : Nat
deriving DecidableEq, Repr

/-- Where chunks are stored. -/
structure StoreSettings where
  address : String
  collection : String
deriving DecidableEq, Repr

/-- All settings of a run. -/
structure Configuration where
  root : Path
  /-- Extensions of the files to take; all known ones if there are none. -/
  extensions : List String
  excludedNames : List String
  greatestDepth : Nat
  /-- A file with rules about files to leave out, for all work trees. -/
  ignoreFile : Option Path
  /-- How many files are worked on before their results are recorded. -/
  batchSize : Nat
  /-- How many files of a batch are worked on at a time. -/
  concurrency : Nat
  window : WindowSize
  /-- Chunks with more estimated tokens than this are dropped. -/
  hardTokenLimit : Nat
  cachePath : Path
  wholeFileFallback : Bool
  evictStale : Bool
  force : Bool
  logFile : Option Path
  /-- The categories whose constructs are indexed, for each language. -/
  units : List (String × List String)
  embedding : EmbeddingSettings
  store : StoreSettings
deriving DecidableEq, Repr

namespace Configuration

/-- Directories that hold no source of their own. -/
def defaultExcludedNames : List String :=
  [".git", "node_modules", "target", "vendor", "dist", "build"]

/-- The units of all languages by default. -/
def defaultUnits : List (String × List String) :=
  Language.all.map fun language => (language.tag, language.defaultUnits)

/-- The defaults for a root directory and a home directory. -/
def default (root : Path) (home : Path) : Configuration :=
  { root
    extensions := []
    excludedNames := defaultExcludedNames
    greatestDepth := 32
    ignoreFile := none
    batchSize := 32
    concurrency := 4
    window := ⟨6000, 200⟩
    hardTokenLimit := 8000
    cachePath := home.join ⟨".code-context/fingerprints.json"⟩
    wholeFileFallback := true
    evictStale := true
    force := false
    logFile := none
    units := defaultUnits
    embedding :=
      { backend := .ollama
        ollamaHost := "http://127.0.0.1:11434"
        model := "nomic-embed-text"
        openaiKey := none
        batchSize := 64 }
    store := ⟨"http://127.0.0.1:19530", "code_chunks"⟩ }

/-- The units of a language, if it has any. -/
def unitsFor? (configuration : Configuration) (language : String) : Option (List String) :=
  configuration.units.lookup language

/-- The failure of a configuration. -/
def reject {α : Type} (detail : String) : Except Failure α :=
  .error (Failure.ofCause (.configuration detail))

/-- Reject settings under which a run would stall. -/
def validate (configuration : Configuration) : Except Failure Unit :=
  let window := configuration.window
  if window.greatest = 0 then reject "max chunk size must be positive"
  else if window.greatest ≤ window.overlap then
    reject s!"chunk overlap ({window.overlap}) must be smaller than max chunk size ({window.greatest})"
  else if configuration.batchSize = 0 ∨ configuration.concurrency = 0 then
    reject "batch size and concurrency must be positive"
  else if configuration.embedding.backend = .openai ∧ configuration.embedding.openaiKey.isNone then
    reject "OPENAI_API_KEY is required for the openai provider"
  else .ok ()

/-- Valid settings have windows that get ahead. -/
theorem advances_of_validate {configuration : Configuration}
    (valid : configuration.validate = .ok ()) : configuration.window.advances = true := by
  simp only [validate, reject] at valid
  split at valid
  · cases valid
  · split at valid
    · cases valid
    · rename_i positive ordered
      simp only [WindowSize.advances, Bool.and_eq_true, decide_eq_true_eq]
      omega

end Configuration

end SourceHarvest
