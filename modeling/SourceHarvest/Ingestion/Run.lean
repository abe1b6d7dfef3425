import SourceHarvest.Blocks
import SourceHarvest.Discovery
import SourceHarvest.Fingerprint.Cache
import SourceHarvest.Ingestion.Batch
import SourceHarvest.Ingestion.FileJob
import SourceHarvest.Outcome.Log

/-!
# A run over a source tree

A run finds the files below the root, works on them batch by batch, and records what
became of each.  Only a store that cannot be reached, a root that cannot be searched and a
fingerprint cache that can be neither loaded nor saved end a run early; a failure of
one file is an outcome of that file.
-/

namespace SourceHarvest

/-- The services that a run uses, over a state `σ` of the world outside. -/
structure Services (σ : Type) where
  /-- Extensions of files that can be parsed. -/
  extensions : List String
  parse : Path → String → Except Failure ParsedSource
  embed : List String → σ → Except Failure (List Embedding) × σ
  connect : σ → Except Failure Unit × σ
  upsert : List Chunk → List Embedding → σ → Except Failure Unit × σ
  deleteFile : String → σ → Except Failure Unit × σ

/-- All that a run sees and changes: the file tree, the services, and the records so far. -/
structure World (σ : Type) where
  tree : FileTree
  remote : σ
  records : List OutcomeRecord

/-- What is fixed for a run from outside: its name in records, the present time, whose turn
it is in each batch, and the log that records go to. -/
structure Session where
  id : String
  timestamp : Nat
  schedule : Nat → List Nat
  log : Option Path

/-- A failure of one file, as a run lists it. -/
structure FileFailure where
  path : Path
  status : Status
  message : String
deriving DecidableEq, Repr

/-- The sums over a run. -/
structure RunSummary where
  filesDiscovered : Nat
  processed : Nat
  skipped : Nat
  errors : Nat
  chunksCreated : Nat
  chunksDropped : Nat
  failures : List FileFailure
deriving DecidableEq, Repr

namespace RunSummary

/-- The sums before any file is done. -/
def start (filesDiscovered : Nat) : RunSummary :=
  ⟨filesDiscovered, 0, 0, 0, 0, 0, []⟩

/-- Add one file to the sums. -/
def absorb (summary : RunSummary) (report : FileReport) : RunSummary :=
  let summary := { summary with chunksDropped := summary.chunksDropped + report.dropped }
  match report.outcome with
  | .skipped => { summary with skipped := summary.skipped + 1 }
  | .processed chunkCount =>
      { summary with
        processed := summary.processed + 1
        chunksCreated := summary.chunksCreated + chunkCount }
  | .failed status message =>
      { summary with
        errors := summary.errors + 1
        failures := summary.failures ++ [⟨report.path, status, message⟩] }

end RunSummary

/-- The record of a report in a session. -/
def FileReport.record (report : FileReport) (session : Session) : OutcomeRecord :=
  { timestamp := session.timestamp
    sessionId := session.id
    path := report.path.text
    status := report.outcome.status
    chunkCount := match report.outcome with
      | .processed chunkCount => some chunkCount
      | _ => none
    error := match report.outcome with
      | .failed _ message => some message
      | _ => none
    duration := 0 }

namespace Services

/-- Answer a question out of the world. -/
def answer {σ : Type} (services : Services σ) (request : Request) (world : World σ) :
    request.Answer × World σ :=
  match request with
  | .modified path => (world.tree.modified path, world)
  | .read path => (world.tree.read path, world)
  | .parse path source => (services.parse path source, world)
  | .embed texts =>
      let (result, remote) := services.embed texts world.remote
      (result, { world with remote })
  | .evict relativePath =>
      let (result, remote) := services.deleteFile relativePath world.remote
      (result, { world with remote })
  | .upsert chunks embeddings =>
      let (result, remote) := services.upsert chunks embeddings world.remote
      (result, { world with remote })

end Services

/-- Work in a world of services, which stays as the work left it even when it fails. -/
abbrev Action (σ : Type) := ExceptT Failure (StateM (World σ))

namespace Action

/-- Use the state of the services. -/
def remotely {σ α : Type} (use : σ → Except Failure α × σ) : Action σ α :=
  ExceptT.mk fun world =>
    let (result, remote) := use world.remote
    (result, { world with remote })

/-- Look at the file tree. -/
def lookingAtFiles {σ α : Type} (look : FileTree → Except Failure α) : Action σ α :=
  ExceptT.mk fun world => (look world.tree, world)

/-- Change the file tree. -/
def changingFiles {σ α : Type} (change : FileTree → Except Failure α × FileTree) : Action σ α :=
  ExceptT.mk fun world =>
    let (result, tree) := change world.tree
    (result, { world with tree })

/-- Keep a record, and add it to the log of the session. -/
def keepRecord {σ : Type} (session : Session) (world : World σ) (record : OutcomeRecord) :
    World σ :=
  { world with
    records := world.records ++ [record]
    tree := match session.log with
      | some path => OutcomeLog.add path world.tree record
      | none => world.tree }

end Action

namespace Ingestion

/-- The sums and the fingerprints in the course of a run. -/
structure Progress where
  summary : RunSummary
  ledger : Ledger

/-- Take in one report. -/
def Progress.absorb (progress : Progress) (report : FileReport) : Progress :=
  { summary := progress.summary.absorb report
    ledger := match report.fingerprint with
      | some fingerprint => progress.ledger.record report.path fingerprint
      | none => progress.ledger }

/-- Work on one batch of files.  Its jobs see the fingerprints from before the batch. -/
def runBatch {σ : Type} (services : Services σ) (session : Session) (configuration : Configuration)
    (root : Path) (batch : List Path × Nat) (progress : Progress) (world : World σ) :
    Progress × World σ :=
  let jobs := batch.1.map (FileJob.process configuration progress.ledger root)
  let (reports, worked) :=
    Batch.run services.answer configuration.concurrency (session.schedule batch.2) jobs world
  let recorded := (reports.map (·.record session)).foldl (Action.keepRecord session) worked
  (reports.foldl Progress.absorb progress, recorded)

/-- Work on all files, a batch after the other. -/
def runBatches {σ : Type} (services : Services σ) (session : Session)
    (configuration : Configuration) (root : Path) (batches : List (List Path × Nat))
    (progress : Progress) (world : World σ) : Progress × World σ :=
  batches.foldl (fun state batch =>
    runBatch services session configuration root batch state.1 state.2) (progress, world)

/-- The extensions of the files to take. -/
def wantedExtensions {σ : Type} (services : Services σ) (configuration : Configuration) :
    List String :=
  if configuration.extensions.isEmpty then services.extensions else configuration.extensions

/-- The files below a root that a configuration asks for. -/
def discovery {σ : Type} (services : Services σ) (configuration : Configuration) : Discovery :=
  { extensions := wantedExtensions services configuration
    excludedNames := configuration.excludedNames
    greatestDepth := configuration.greatestDepth
    personalFile := configuration.ignoreFile }

/-- The canonical path of the root. -/
def resolveRoot (configuration : Configuration) (tree : FileTree) : Except Failure Path :=
  Failure.during s!"Failed to resolve root {configuration.root.text}"
    (Failure.ofFileResult (tree.canonicalize configuration.root))

/-- Index all files below the root of a configuration. -/
def run {σ : Type} (services : Services σ) (session : Session) (configuration : Configuration) :
    Action σ RunSummary := do
  ExceptT.mk (pure configuration.validate)
  Action.remotely fun remote =>
    let (result, next) := services.connect remote
    (result.mapError fun failure => Failure.ofCause (.storeUnavailable failure.text), next)
  let ledger ← Action.lookingAtFiles (Ledger.load · configuration.cachePath)
  let root ← Action.lookingAtFiles (resolveRoot configuration)
  let files ← Action.lookingAtFiles ((discovery services configuration).run · root)
  let batches := (blocksOf (configuration.batchSize - 1) files).zipIdx
  let progress ← ExceptT.lift <| StateT.mk fun world =>
    runBatches services session configuration root batches
      ⟨RunSummary.start files.length, ledger⟩ world
  Action.changingFiles (progress.ledger.save configuration.cachePath)
  pure progress.summary

/-- The path under which a file is fingerprinted: canonical while the file exists. -/
def trackedPath (tree : FileTree) (root path : Path) : Path :=
  let absolute := root.join path
  match tree.canonicalize absolute with
  | .ok canonical => canonical
  | .error _ => absolute

/-- Forget a file: drop its fingerprint and its stored chunks.  Tell whether it had a
fingerprint. -/
def forget {σ : Type} (services : Services σ) (configuration : Configuration) (path : Path) :
    Action σ Bool := do
  let tree := (← get).tree
  let root := match tree.canonicalize configuration.root with
    | .ok canonical => canonical
    | .error _ => configuration.root
  let tracked := trackedPath tree root path
  let ledger ← Action.lookingAtFiles (Ledger.load · configuration.cachePath)
  Action.remotely fun remote =>
    let (result, next) := services.deleteFile (FileJob.relativePath root tracked) remote
    (Failure.during "Failed to delete rows from vector store" result, next)
  Action.changingFiles ((ledger.remove tracked).save configuration.cachePath)
  pure (ledger.has tracked)

end Ingestion

end SourceHarvest
