import SourceHarvest.Proofs.Fingerprint.Unsaved
import SourceHarvest.Proofs.Ingestion.Readiness
import SourceHarvest.Proofs.Ingestion.TableServices

/-!
# How a run ends early

A run looks at its settings, the store, the cache and the root one after the other, and the
first of them that is not in order ends it before anything has happened.  After that nothing
but a cache that cannot be saved can end it: then all files have been worked on and recorded,
and the cache is the one from before.
-/

namespace SourceHarvest

namespace OutcomeLog

/-- Bytes are added to the file at a path. -/
theorem append_eq_ok {tree after : FileTree} {path : Path} {content : ByteArray}
    (longer : tree.append path content = .ok after) :
    ∃ location held time, tree.find path = .ok (location, .file held time) ∧
      after = tree.put location (.file (held ++ content) tree.clock) := by
  simp only [FileTree.append] at longer
  cases found : tree.find path with
  | error failure =>
      rw [found] at longer
      cases longer
  | ok result =>
      rcases result with ⟨location, entry⟩
      rw [found] at longer
      cases entry with
      | directory | link | fullDevice => cases longer
      | file held time => exact ⟨location, held, time, rfl, (Except.ok.inj longer).symm⟩

section Add

variable {tree : FileTree} {path : Path} {location : Location} {content : ByteArray} {time : Int}

/-- A record in a log leaves a file as it is, or adds to it if the log is that file. -/
theorem find_add (sound : tree.Sound) (log : Path) (record : OutcomeRecord)
    (found : tree.find path = .ok (location, .file content time)) :
    ∃ added later,
      (add log tree record).find path = .ok (location, .file (content ++ added) later) ∧
        ((∀ entry, tree.find log ≠ .ok (location, entry)) → added = .empty) := by
  have resolved := FileTree.find_eq_ok_iff.mp found
  have holds := sound.resolve_holds resolved
  have held := holds.2 Way.noConfusion
  rw [add]
  split
  · rename_i longer appended
    rcases sound.append_spec appended with ⟨_, workingDirectory, ways⟩
    have grows : FileTree.Grows tree longer := ⟨workingDirectory, fun place _ => ways place⟩
    have finds {entry : Entry} (there : longer.get? location = some entry)
        (blocked : entry.way = .nowhere) : longer.find path = .ok (location, entry) :=
      FileTree.find_eq_ok_iff.mpr
        (sound.resolve_of_grows grows resolved holds.1 there blocked (.inl rfl))
    obtain ⟨place, former, earlier, led, rfl⟩ := append_eq_ok appended
    by_cases same : location = place
    · subst same
      have before := (sound.resolve_holds (FileTree.find_eq_ok_iff.mp led)).2 Way.noConfusion
      cases held.symm.trans before
      have inside : location ≠ [] := FileTree.ne_nil_of_way_nowhere holds.1
      exact ⟨_, _, finds (FileTree.get?_put_self tree _ _ inside) rfl,
        fun apart => absurd led (apart _)⟩
    · refine ⟨.empty, time, ?_, fun _ => rfl⟩
      rw [ByteArray.append_empty]
      exact finds ((FileTree.get?_put_other tree _ same).trans held) rfl
  · exact ⟨.empty, time, by rw [ByteArray.append_empty, found], fun _ => rfl⟩

/-- Records in a log leave a file as it is, or add to it if the log is that file. -/
theorem find_addAll (sound : tree.Sound) (log : Path) (records : List OutcomeRecord)
    (found : tree.find path = .ok (location, .file content time)) :
    ∃ added later,
      (records.foldl (add log) tree).find path = .ok (location, .file (content ++ added) later) ∧
        ((∀ entry, tree.find log ≠ .ok (location, entry)) → added = .empty) := by
  induction records generalizing tree content time with
  | nil => exact ⟨.empty, time, by rw [ByteArray.append_empty]; exact found, fun _ => rfl⟩
  | cons record rest inductionHypothesis =>
      obtain ⟨first, later, here, still⟩ := find_add sound log record found
      rcases sameKinds_add log record sound with ⟨added, kinds⟩
      obtain ⟨others, last, there, further⟩ := inductionHypothesis added here
      refine ⟨first ++ others, last, by rw [← ByteArray.append_assoc]; exact there, fun apart => ?_⟩
      rw [still apart, further fun entry led => ?_, ByteArray.append_empty]
      obtain ⟨former, there⟩ := kinds.find_eq_ok led
      exact apart former there

end Add

end OutcomeLog

/-- The log of the session is the file at a location. -/
def Session.LogsAt (session : Session) (tree : FileTree) (location : Location) : Prop :=
  ∃ log entry, session.log = some log ∧ tree.find log = .ok (location, entry)

/-- What a session logs is added to no file but its log. -/
theorem Session.find_logged (session : Session) (records : List OutcomeRecord) {tree : FileTree}
    (sound : tree.Sound) {path : Path} {location : Location} {content : ByteArray} {time : Int}
    (found : tree.find path = .ok (location, .file content time)) :
    ∃ added later,
      (session.logged records tree).find path = .ok (location, .file (content ++ added) later) ∧
        (¬ session.LogsAt tree location → added = .empty) := by
  rw [logged]
  cases known : session.log with
  | none => exact ⟨.empty, time, by rw [ByteArray.append_empty]; exact found, fun _ => rfl⟩
  | some log =>
      obtain ⟨added, later, there, still⟩ := OutcomeLog.find_addAll sound log records found
      exact ⟨added, later, there, fun apart => still fun entry led =>
        apart ⟨log, entry, known, led⟩⟩

/-- Files are looked for in a directory, and nowhere else. -/
theorem Discovery.run_cases (discovery : Discovery) (tree : FileTree) (root : Path) :
    (tree.isDirectory root = true ∧ ∃ files, discovery.run tree root = .ok files) ∨
      tree.isDirectory root = false ∧ discovery.run tree root =
        .error (Failure.ofMessage s!"Path is not a directory: {root.text}") := by
  rw [run, FileTree.isDirectory]
  cases tree.find root with
  | error failure => exact .inr ⟨rfl, rfl⟩
  | ok result =>
      rcases result with ⟨location, entry⟩
      cases entry with
      | directory => exact .inl ⟨rfl, _, rfl⟩
      | file | link | fullDevice => exact .inr ⟨rfl, rfl⟩

namespace Ingestion

variable {σ : Type} {services : Services σ} {session : Session} {configuration : Configuration}
  {before : World σ} {failure : Failure}

/-- Work does not go on after a failure. -/
theorem bind_of_error {α β : Type} {work : Action σ α} {next : α → Action σ β}
    {world after : World σ} (failed : work.run world = (.error failure, after)) :
    (work >>= next).run world = (.error failure, after) := by
  rw [run_bind, failed]
  rfl

/-- A run ends before it comes to any file, with the failure of the first thing that is not in
order, and with the store in some state. -/
inductive Halts (services : Services σ) (configuration : Configuration) (before : World σ) :
    Failure → σ → Prop where
  | invalid {failure : Failure} (rejected : configuration.validate = .error failure) :
      Halts services configuration before failure before.remote
  | unreachable (valid : configuration.validate = .ok ()) {cause : Failure}
      (refused : (services.connect before.remote).1 = .error cause) :
      Halts services configuration before (Failure.ofCause (.storeUnavailable cause.text))
        (services.connect before.remote).2
  | unloadable (valid : configuration.validate = .ok ())
      (connected : (services.connect before.remote).1 = .ok ()) {failure : Failure}
      (failed : Ledger.load before.tree configuration.cachePath = .error failure) :
      Halts services configuration before failure (services.connect before.remote).2
  | unresolved (valid : configuration.validate = .ok ())
      (connected : (services.connect before.remote).1 = .ok ()) {ledger : Ledger}
      (loaded : Ledger.load before.tree configuration.cachePath = .ok ledger) {failure : Failure}
      (failed : resolveRoot configuration before.tree = .error failure) :
      Halts services configuration before failure (services.connect before.remote).2
  | misplaced (valid : configuration.validate = .ok ())
      (connected : (services.connect before.remote).1 = .ok ()) {ledger : Ledger}
      (loaded : Ledger.load before.tree configuration.cachePath = .ok ledger) {root : Path}
      (resolved : resolveRoot configuration before.tree = .ok root)
      (noDirectory : before.tree.isDirectory root = false) :
      Halts services configuration before
        (Failure.ofMessage s!"Path is not a directory: {root.text}")
        (services.connect before.remote).2

/-- A run comes to its files. -/
structure Begins (services : Services σ) (configuration : Configuration) (before : World σ)
    (files : List Path) : Prop where
  valid : configuration.validate = .ok ()
  connected : (services.connect before.remote).1 = .ok ()
  loaded : ∃ ledger, Ledger.load before.tree configuration.cachePath = .ok ledger
  discovered : ∃ root, resolveRoot configuration before.tree = .ok root ∧
    (discovery services configuration).run before.tree root = .ok files

/-- A run ends early or comes to its files. -/
theorem halts_or_begins (services : Services σ) (configuration : Configuration) (before : World σ) :
    (∃ failure remote, Halts services configuration before failure remote) ∨
      ∃ files, Begins services configuration before files := by
  cases valid : configuration.validate with
  | error failure => exact .inl ⟨_, _, .invalid valid⟩
  | ok =>
  cases connected : (services.connect before.remote).1 with
  | error cause => exact .inl ⟨_, _, .unreachable valid connected⟩
  | ok =>
  cases loaded : Ledger.load before.tree configuration.cachePath with
  | error failure => exact .inl ⟨_, _, .unloadable valid connected loaded⟩
  | ok ledger =>
  cases resolved : resolveRoot configuration before.tree with
  | error failure => exact .inl ⟨_, _, .unresolved valid connected loaded resolved⟩
  | ok root =>
  rcases (discovery services configuration).run_cases before.tree root with
    ⟨_, files, found⟩ | ⟨noDirectory, _⟩
  · exact .inr ⟨files, valid, connected, ⟨ledger, loaded⟩, ⟨root, resolved, found⟩⟩
  · exact .inl ⟨_, _, .misplaced valid connected loaded resolved noDirectory⟩

/-- A run that ends early leaves everything as it was, but for the store that it reached for. -/
theorem run_of_halts {remote : σ} (halts : Halts services configuration before failure remote) :
    (run services session configuration).run before = (.error failure, { before with remote }) := by
  rw [run]
  cases halts with
  | invalid rejected => exact bind_of_error (Prod.ext rejected rfl)
  | unreachable valid refused =>
      rw [bind_of_ok ()]
      · exact bind_of_error (Prod.ext (congrArg (Except.mapError _) refused) rfl)
      · exact valid
  | unloadable valid connected failed =>
      rw [bind_of_ok (), bind_of_ok ()]
      · exact bind_of_error (Prod.ext failed rfl)
      · exact congrArg (Except.mapError _) connected
      · exact valid
  | @unresolved valid connected ledger loaded _ failed =>
      rw [bind_of_ok (), bind_of_ok (), bind_of_ok ledger]
      · exact bind_of_error (Prod.ext failed rfl)
      · exact loaded
      · exact congrArg (Except.mapError _) connected
      · exact valid
  | @misplaced valid connected ledger loaded root resolved noDirectory =>
      have nowhere : (discovery services configuration).run before.tree root =
          .error (Failure.ofMessage s!"Path is not a directory: {root.text}") := by
        rcases (discovery services configuration).run_cases before.tree root with
          ⟨directory, _⟩ | ⟨_, failed⟩
        · cases directory.symm.trans noDirectory
        · exact failed
      rw [bind_of_ok (), bind_of_ok (), bind_of_ok ledger, bind_of_ok root]
      · exact bind_of_error (Prod.ext nowhere rfl)
      · exact resolved
      · exact loaded
      · exact congrArg (Except.mapError _) connected
      · exact valid

/-- The work of a run on the files that it came to, up to where the fingerprints are to be saved. -/
structure Work (services : Services σ) (session : Session) (configuration : Configuration)
    (before middle : World σ) where
  ledger : Ledger
  root : Path
  files : List Path
  proceedings : Proceedings
  loaded : Ledger.load before.tree configuration.cachePath = .ok ledger
  resolved : resolveRoot configuration before.tree = .ok root
  discovered : (discovery services configuration).run before.tree root = .ok files
  distinct : files.Nodup
  describe : proceedings.Describe services session configuration ledger root files
    { before with remote := (services.connect before.remote).2 } middle

namespace Work

variable {middle : World σ} (work : Work services session configuration before middle)

/-- The sums over all files. -/
def summary : RunSummary :=
  work.proceedings.reports.foldl RunSummary.absorb (RunSummary.start work.files.length)

/-- The fingerprints after all files. -/
def finalLedger : Ledger :=
  work.ledger.absorbAll work.proceedings.reports

theorem get?_finalLedger (path : Path) : work.finalLedger.get? path =
    if path ∈ work.files then (work.proceedings.report path).fingerprint.or (work.ledger.get? path)
    else work.ledger.get? path :=
  work.describe.get?_absorbAll work.distinct work.ledger path

/-- Where the fingerprints can be saved, the sums over all files are the result. -/
theorem summary_eq {saved : Except Failure Unit} {summary : RunSummary}
    (summed : (saved.map fun _ => work.summary) = .ok summary) : work.summary = summary := by
  cases saved with
  | error failure => cases summed
  | ok => exact Except.ok.inj summed

end Work

/-- A run that comes to its files works on all of them, whatever becomes of each, and then saves. -/
theorem exists_work (session : Session) (sound : before.tree.Sound) {files : List Path}
    (begins : Begins services configuration before files) :
    ∃ (middle : World σ) (work : Work services session configuration before middle),
      work.files = files ∧
      (run services session configuration).run before =
        ((work.finalLedger.save configuration.cachePath middle.tree).1.map fun _ => work.summary,
          { middle with
            tree := (work.finalLedger.save configuration.cachePath middle.tree).2 }) := by
  rcases begins.loaded with ⟨ledger, loaded⟩
  rcases begins.discovered with ⟨root, resolved, discovered⟩
  have once := Discovery.nodup_of_run sound discovered
  obtain ⟨proceedings, describe, progressed⟩ := exists_describe_files services session configuration
    root once ⟨RunSummary.start files.length, ledger⟩
    { before with remote := (services.connect before.remote).2 }
  generalize worked : runBatches services session configuration root
    (blocksOf (configuration.batchSize - 1) files).zipIdx ⟨RunSummary.start files.length, ledger⟩
    { before with remote := (services.connect before.remote).2 } = done at describe progressed
  rcases done with ⟨progress, middle⟩
  simp only at describe progressed
  subst progressed
  let work : Work services session configuration before middle :=
    { ledger, root, files, proceedings, loaded, resolved, discovered, distinct := once, describe }
  refine ⟨middle, work, rfl, ?_⟩
  rw [run_of_discovered begins.valid begins.connected loaded resolved discovered worked]
  rfl

/-- A run that comes to its files works on all of them and records each, and then saves. -/
theorem exists_saving (session : Session) (sound : before.tree.Sound) {files : List Path}
    (begins : Begins services configuration before files) :
    ∃ (ledger : Ledger) (summary : RunSummary) (records : List OutcomeRecord) (remote : σ),
      (records.map (·.path)).Perm (files.map (·.text)) ∧
      (run services session configuration).run before =
        ((ledger.save configuration.cachePath (session.logged records before.tree)).1.map
            fun _ => summary,
          { tree := (ledger.save configuration.cachePath (session.logged records before.tree)).2
            remote
            records := before.records ++ records }) := by
  obtain ⟨middle, work, rfl, ran⟩ := exists_work session sound begins
  refine ⟨work.finalLedger, work.summary, work.proceedings.records session, middle.remote,
    work.describe.paths_records, ?_⟩
  have tree : middle.tree = session.logged (work.proceedings.records session) before.tree :=
    work.describe.tree
  have records : middle.records = before.records ++ work.proceedings.records session :=
    work.describe.records
  rw [ran, tree, records]

/-- A run came to its files, worked on all of them and recorded each once, but could not save its
cache.  The one from before is still there; only if it is the log, records were added to it. -/
structure Unsaved (session : Session) (configuration : Configuration) (before : World σ)
    (files : List Path) (records : List OutcomeRecord) (failure : Failure) (after : World σ) :
    Prop where
  recorded : after.records = before.records ++ records
  complete : (records.map (·.path)).Perm (files.map (·.text))
  failed : ∃ ledger : Ledger,
    ledger.save configuration.cachePath (session.logged records before.tree) =
      (.error failure, after.tree)
  kept : ∀ (location : Location) (content : ByteArray) (time : Int),
    before.tree.find configuration.cachePath = .ok (location, .file content time) →
      ∃ added later,
        after.tree.find configuration.cachePath = .ok (location, .file (content ++ added) later) ∧
          (¬ session.LogsAt before.tree location → added = .empty)

/-- Where a cache cannot be saved, a run that comes to its files fails only then. -/
theorem exists_unsaved (session : Session) (sound : before.tree.Sound) {files : List Path}
    (begins : Begins services configuration before files)
    (unsavable : (Ledger.empty.save configuration.cachePath before.tree).1 = .error failure) :
    ∃ after records, (run services session configuration).run before = (.error failure, after) ∧
      Unsaved session configuration before files records failure after := by
  obtain ⟨ledger, summary, records, remote, complete, ran⟩ := exists_saving session sound begins
  have failed : (ledger.save configuration.cachePath (session.logged records before.tree)).1 =
      .error failure :=
    (Ledger.save_result_eq (session.sameKinds_logged records sound) .empty ledger _).trans unsavable
  generalize saved : ledger.save configuration.cachePath (session.logged records before.tree) =
    result at ran failed
  rcases result with ⟨outcome, tree⟩
  obtain rfl : outcome = .error failure := failed
  refine ⟨_, records, ran, rfl, complete, ⟨ledger, saved⟩, fun location content time found => ?_⟩
  obtain ⟨added, later, there, still⟩ := session.find_logged records sound found
  exact ⟨added, later, Ledger.find_of_unsaved (session.logged_spec records sound).1 there saved,
    still⟩

/-- Whether a run ends early depends on nothing that the services do but on how they are reached. -/
theorem Halts.of_connect {remote : σ} (halts : Halts services configuration before failure remote)
    {other : Services σ} (same : other.connect = services.connect) :
    Halts other configuration before failure remote := by
  cases halts with
  | invalid rejected => exact .invalid rejected
  | unreachable valid refused =>
      rw [← same] at refused ⊢
      exact .unreachable valid refused
  | unloadable valid connected failed =>
      rw [← same] at connected ⊢
      exact .unloadable valid connected failed
  | unresolved valid connected loaded failed =>
      rw [← same] at connected ⊢
      exact .unresolved valid connected loaded failed
  | misplaced valid connected loaded resolved noDirectory =>
      rw [← same] at connected ⊢
      exact .misplaced valid connected loaded resolved noDirectory

/-- A run fails exactly if it ends early, or comes to its files and cannot save its cache. -/
theorem run_error_iff (session : Session) (sound : before.tree.Sound) :
    (∃ after, (run services session configuration).run before = (.error failure, after)) ↔
      (∃ remote, Halts services configuration before failure remote) ∨
        (∃ files, Begins services configuration before files) ∧
          (Ledger.empty.save configuration.cachePath before.tree).1 = .error failure := by
  constructor
  · rintro ⟨after, failed⟩
    rcases halts_or_begins services configuration before with ⟨other, remote, halts⟩ |
      ⟨files, begins⟩
    · have ended : (run services session configuration).run before =
          (.error other, { before with remote }) := run_of_halts halts
      cases failed.symm.trans ended
      exact .inl ⟨remote, halts⟩
    · cases saved : (Ledger.empty.save configuration.cachePath before.tree).1 with
      | ok =>
          have ready : Ready services configuration before :=
            ⟨begins.valid, begins.connected, begins.loaded,
              begins.discovered.imp fun root found => ⟨files, found⟩, saved⟩
          obtain ⟨summary, final, ran⟩ := (run_ok_iff sound).mpr ready
          cases failed.symm.trans ran
      | error other =>
          obtain ⟨final, records, ended, _⟩ := exists_unsaved session sound begins saved
          cases failed.symm.trans ended
          exact .inr ⟨⟨files, begins⟩, rfl⟩
  · rintro (⟨remote, halts⟩ | ⟨⟨files, begins⟩, unsavable⟩)
    · exact ⟨_, run_of_halts halts⟩
    · obtain ⟨after, records, ended, _⟩ := exists_unsaved session sound begins unsavable
      exact ⟨after, ended⟩

end Ingestion

namespace Small

open Ingestion

/-- A file and an old cache, with a directory in the way of the temporary file. -/
def obstructed : World RowTable :=
  ⟨{ entries :=
      [ (["c"], .directory 5000),
        (["c", "cache.json"], .file Ledger.empty.encode.toUTF8 5000),
        (["c", "cache.json.tmp"], .directory 5000),
        (["r"], .directory 5000),
        (["r", "A.java"], .file "class A".toUTF8 5000) ]
     workingDirectory := []
     clock := 5000 }, .empty, []⟩

theorem sound_obstructed : obstructed.tree.Sound :=
  ⟨by decide +kernel, by decide +kernel, FileTree.nested_of_entries (by decide +kernel),
    by decide +kernel⟩

theorem begins_obstructed : Begins (services embed) configuration obstructed [file] where
  valid := by decide +kernel
  connected := rfl
  loaded := ⟨.empty, by decide +kernel⟩
  discovered := ⟨⟨"/r"⟩, by decide +kernel, by decide +kernel⟩

/-- A store that cannot be reached, and speaks of something else. -/
def unreachable : Services RowTable :=
  { services embed with
    connect := fun remote => (.error (Failure.ofMessage "a chunk is lost"), remote) }

end Small

end SourceHarvest
