import SourceHarvest.Proofs.Fingerprint.Replacement
import SourceHarvest.Proofs.Ingestion.TableServices

/-!
# The sums, the records and the cache of a run

What a run tells of its files it tells in four ways: in its sums, in its list of failures, in its
records and in the fingerprints that it saves.  They tell the same, file by file, whatever becomes
of the files.
-/

namespace SourceHarvest

/-- No failure has the status of a file that ended well. -/
theorem Status.ofFailure_ne (failure : Failure) :
    ofFailure failure ≠ .success ∧ ofFailure failure ≠ .skipped := by
  have listed : ∀ rule ∈ rules, rule.1 ≠ .success ∧ rule.1 ≠ .skipped := by decide
  rw [ofFailure]
  split
  · decide
  · decide
  · decide
  · rw [classify]
    split
    · rename_i rule found
      exact listed rule (List.mem_of_find?_eq_some found)
    · decide

/-- How many chunks an effect has stored. -/
def StoreEffect.chunkCount : StoreEffect → Nat
  | .evicted _ => 0
  | .stored chunks _ => chunks.length

/-- How many chunks there are in the calls of a dialogue that stored them. -/
def storedCount (dialogue : List Reply) : Nat :=
  ((effects dialogue).map StoreEffect.chunkCount).sum

theorem storedCount_cons (reply : Reply) (rest : List Reply) :
    storedCount (reply :: rest) = storedCount [reply] + storedCount rest := by
  rw [← List.singleton_append, storedCount, effects_append, List.map_append, List.sum_append,
    ← storedCount, ← storedCount]

/-- What was stored in all is what was stored for each of the files. -/
theorem storedCount_history {files : List Path} (distinct : files.Nodup)
    {history : List (Path × Reply)} (marked : ∀ spoken ∈ history, spoken.1 ∈ files) :
    storedCount (history.map (·.2)) =
      (files.map fun path => storedCount (spokenBy path history)).sum := by
  induction history with
  | nil => simp [storedCount]
  | cons spoken rest inductionHypothesis =>
      rcases spoken with ⟨asker, reply⟩
      have each (path : Path) : storedCount (spokenBy path ((asker, reply) :: rest)) =
          (if path = asker then storedCount [reply] else 0) + storedCount (spokenBy path rest) := by
        by_cases same : path = asker
        · subst same
          rw [spokenBy_cons_self, storedCount_cons, if_pos rfl]
        · rw [spokenBy_cons_other (Ne.symm same), if_neg same, Nat.zero_add]
      have once : (files.map fun path => if path = asker then storedCount [reply] else 0).sum =
          storedCount [reply] := by
        rw [List.sum_map_eq_nsmul_single asker _ fun other different _ => if_neg different,
          List.count_eq_one_of_mem distinct (marked _ List.mem_cons_self), if_pos rfl, one_nsmul]
      rw [List.map_cons, storedCount_cons,
        inductionHypothesis fun spoken member => marked spoken (List.mem_cons_of_mem _ member)]
      simp only [each, List.sum_map_add, once]

/-- What a failure of a file has in common with its record. -/
def FileFailure.entry (failure : FileFailure) : String × Status × String :=
  (failure.path.text, failure.status, failure.message)

/-- What a record tells of a failure. -/
def OutcomeRecord.failure? (record : OutcomeRecord) : Option (String × Status × String) :=
  record.error.map fun message => (record.path, record.status, message)

theorem FileReport.failure?_record (report : FileReport) (session : Session) :
    (report.record session).failure? = report.failure?.map FileFailure.entry := by
  rcases report with ⟨path, outcome, fingerprint, dropped⟩
  cases outcome <;> rfl

theorem FileReport.chunkCount_record (report : FileReport) (session : Session) :
    (report.record session).chunkCount.getD 0 = report.chunkCount := by
  rcases report with ⟨path, outcome, fingerprint, dropped⟩
  cases outcome <;> rfl

theorem Path.text_injective : Function.Injective Path.text := by
  rintro ⟨first⟩ ⟨second⟩ same
  exact congrArg Path.mk same

/-- The outcomes of reports are of three kinds. -/
theorem length_eq_kinds (reports : List FileReport) :
    reports.length = reports.countP (·.outcome matches .processed _) +
      reports.countP (·.outcome matches .skipped) +
      (reports.filterMap FileReport.failure?).length := by
  induction reports with
  | nil => rfl
  | cons report rest inductionHypothesis =>
      rcases report with ⟨path, outcome, fingerprint, dropped⟩
      rw [List.length_cons, inductionHypothesis]
      cases outcome <;> simp [FileReport.failure?, List.filterMap_cons] <;> omega

namespace FileJob.Course

variable {σ : Type} {services : Services σ} {configuration : Configuration} {tree : FileTree}
  {ledger : Ledger} {root path : Path} {report : FileReport}

/-- A file has stored as many chunks as its report says. -/
theorem stored_eq {done : List StoreEffect}
    (course : Course services configuration tree ledger root path report done) :
    (done.map StoreEffect.chunkCount).sum = report.chunkCount := by
  cases course with
  | skipped | failed | stranded => rfl
  | @processed _ _ _ _ _ bounded =>
      rw [replacement]
      cases evicts configuration ledger path <;> cases empty : bounded.chunks.isEmpty <;>
        simp_all [StoreEffect.chunkCount, FileReport.chunkCount]

/-- A file that was processed was read, and has a fingerprint of its bytes, its time and its
chunks. -/
theorem fingerprint_eq {done : List StoreEffect}
    (course : Course services configuration tree ledger root path report done) {count : Nat}
    (processed : report.outcome = .processed count) :
    ∃ content lastModified, tree.read path = .ok content ∧ tree.millis? path = some lastModified ∧
      report.fingerprint = some ⟨contentHash content.toList, lastModified, count⟩ := by
  obtain ⟨lastModified, source, _, _, dated, readable, _, _, _, marked, _⟩ :=
    course.of_processed processed
  exact ⟨source.toUTF8, lastModified, FileTree.source?_eq_some_iff.mp readable, dated, marked⟩

/-- A file that was not processed gets no fingerprint. -/
theorem fingerprint_eq_none {done : List StoreEffect}
    (course : Course services configuration tree ledger root path report done)
    (unprocessed : report.outcome.status ≠ .success) : report.fingerprint = none := by
  cases marked : report.fingerprint with
  | none => rfl
  | some fingerprint =>
      obtain ⟨count, processed⟩ := course.exists_processed_of_fingerprint marked
      exact absurd (congrArg FileOutcome.status processed) unprocessed

end FileJob.Course

namespace Ingestion.Account

open FileJob

variable {σ : Type} {services : Services σ} {session : Session} {configuration : Configuration}
  {before after : World σ} (account : Account services session configuration before after)

/-- The run leaves its fingerprints in the cache, also where the cache was a link. -/
theorem load_after_of_hosts (hosts : before.tree.Hosts configuration.cachePath)
    (counted : account.Counted) :
    Ledger.load after.tree configuration.cachePath = .ok account.finalLedger ∧ after.tree.Sound := by
  rcases session.logged_spec (account.proceedings.records session) hosts.sound with ⟨sound, links⟩
  have spec := Ledger.load_of_replaced (hosts.of_sameLinks sound links) account.saved
  rwa [Ledger.decode_encode ((Ledger.ordered_of_load account.loaded).absorbAll _)
    (account.fits_finalLedger counted)] at spec

/-- The records, the sums, the failures and the fingerprints of a run agree. -/
structure Exact (records : List OutcomeRecord) : Prop where
  kept : after.records = before.records ++ records
  discovered : account.summary.filesDiscovered = account.files.length
  parted : account.files.length =
    account.summary.processed + account.summary.skipped + account.summary.errors
  recorded : records.length = account.files.length
  paths : (records.map (·.path)).Perm (account.files.map (·.text))
  once : (records.map (·.path)).Nodup
  errors : account.summary.failures.length = account.summary.errors
  /-- Failures and records are in the same order. -/
  failures : account.summary.failures.map FileFailure.entry =
    records.filterMap OutcomeRecord.failure?
  chunkCount : ∀ record ∈ records, record.chunkCount.isSome ↔ record.status = .success
  error : ∀ record ∈ records,
    record.error.isSome ↔ record.status ≠ .success ∧ record.status ≠ .skipped
  created : account.summary.chunksCreated = (records.map fun record => record.chunkCount.getD 0).sum
  stored : account.summary.chunksCreated = storedCount (account.proceedings.history.map (·.2))
  renewed : ∀ record ∈ records, record.status = .success → ∃ path ∈ account.files,
    path.text = record.path ∧ ∃ content lastModified count, record.chunkCount = some count ∧
      (account.proceedings.seen path).read path = .ok content ∧
      (account.proceedings.seen path).millis? path = some lastModified ∧
      account.finalLedger.get? path = some ⟨contentHash content.toList, lastModified, count⟩
  unchanged : ∀ path, (∀ record ∈ records, record.status = .success → record.path ≠ path.text) →
    account.finalLedger.get? path = account.ledger.get? path
  saved : ∃ tree, account.finalLedger.save configuration.cachePath tree = (.ok (), after.tree)
  loaded : before.tree.Hosts configuration.cachePath → account.Counted →
    Ledger.load after.tree configuration.cachePath = .ok account.finalLedger

/-- A record is that of the report on a file. -/
theorem mem_records_iff {record : OutcomeRecord} :
    record ∈ account.proceedings.records session ↔
      ∃ path ∈ account.files, (account.proceedings.report path).record session = record := by
  simp only [Proceedings.records, Proceedings.reports, List.mem_map, exists_exists_and_eq_and,
    account.describe.order.mem_iff]

/-- What the record of a file has follows from its status. -/
theorem record_spec {path : Path} (member : path ∈ account.files) :
    let record := (account.proceedings.report path).record session
    (record.chunkCount.isSome ↔ record.status = .success) ∧
      (record.error.isSome ↔ record.status ≠ .success ∧ record.status ≠ .skipped) := by
  have failing (status : Status) (message : String)
      (failed : (account.proceedings.report path).outcome = .failed status message) :
      status ≠ .success ∧ status ≠ .skipped := by
    obtain ⟨failure, rfl, _⟩ := failure_of_yields (account.describe.yields path member)
      (account.describe.grounded path member) failed
    exact Status.ofFailure_ne failure
  generalize account.proceedings.report path = report at failing
  rcases report with ⟨_, outcome, _, _⟩
  cases outcome with
  | skipped | processed => simp [FileReport.record, FileOutcome.status]
  | failed status message =>
      have bad := failing status message rfl
      simp [FileReport.record, FileOutcome.status, bad]

/-- The chunks that the run counts are those that it stored. -/
theorem stored_eq : storedCount (account.proceedings.history.map (·.2)) =
    (account.proceedings.reports.map FileReport.chunkCount).sum := by
  rw [storedCount_history account.distinct account.describe.marked, Proceedings.reports,
    List.map_map, (account.describe.order.map _).sum_nat]
  congr 1
  exact List.map_congr_left fun path member => (account.course member).stored_eq

/-- A file whose record says that it was processed has a new fingerprint: that of its bytes, of its
time, and of the chunks that are recorded. -/
theorem renewed_of_success {path : Path} (member : path ∈ account.files)
    (success : ((account.proceedings.report path).record session).status = .success) :
    ∃ content lastModified count,
      ((account.proceedings.report path).record session).chunkCount = some count ∧
      (account.proceedings.seen path).read path = .ok content ∧
      (account.proceedings.seen path).millis? path = some lastModified ∧
      account.finalLedger.get? path = some ⟨contentHash content.toList, lastModified, count⟩ := by
  obtain ⟨count, counted⟩ :=
    Option.isSome_iff_exists.mp ((account.record_spec member).1.mpr success)
  have processed : (account.proceedings.report path).outcome = .processed count := by
    simp only [FileReport.record] at counted
    split at counted
    · rename_i found processed
      rw [processed, Option.some.inj counted]
    · cases counted
  obtain ⟨content, lastModified, read, dated, fingerprint⟩ :=
    (account.course member).fingerprint_eq processed
  refine ⟨content, lastModified, count, counted, read, dated, ?_⟩
  rw [account.get?_finalLedger, if_pos member, fingerprint]
  rfl

/-- A path of which no record says that it was processed keeps what was known of it. -/
theorem unchanged_of_untold {path : Path} (untold : ∀ record ∈ account.proceedings.records session,
    record.status = .success → record.path ≠ path.text) :
    account.finalLedger.get? path = account.ledger.get? path := by
  rw [account.get?_finalLedger]
  split
  · rename_i member
    have listed := account.mem_records_iff.mpr ⟨path, member, rfl⟩
    have unprocessed : (account.proceedings.report path).outcome.status ≠ .success := fun success =>
      untold _ listed success (congrArg Path.text (account.describe.report_path member))
    rw [(account.course member).fingerprint_eq_none unprocessed]
    rfl
  · rfl

/-- Every run that succeeds accounts for all of its files. -/
theorem exact : account.Exact (account.proceedings.records session) := by
  have order := account.describe.order
  have sums := account.summed
  rw [RunSummary.foldl_absorb] at sums
  simp only [RunSummary.start, Nat.zero_add, List.nil_append] at sums
  have size : account.proceedings.reports.length = account.files.length := by
    rw [Proceedings.reports, List.length_map, order.length_eq]
  have paths := account.describe.paths_records
  refine
    { kept := account.describe.records
      discovered := by rw [sums]
      parted := by
        rw [sums]
        exact size.symm.trans (length_eq_kinds _)
      recorded := by rw [Proceedings.records, List.length_map, size]
      paths := paths
      once := (paths.nodup_iff).mpr (account.distinct.map Path.text_injective)
      errors := by rw [sums]
      failures := ?_
      chunkCount := ?_
      error := ?_
      created := ?_
      stored := by rw [sums, account.stored_eq]
      renewed := ?_
      unchanged := fun _ untold => account.unchanged_of_untold untold
      saved := ⟨_, account.saved⟩
      loaded := fun hosts counted => (account.load_after_of_hosts hosts counted).1 }
  · rw [sums, Proceedings.records, List.filterMap_map, List.map_filterMap]
    exact List.filterMap_congr fun report _ => (report.failure?_record session).symm
  · intro record listed
    rcases account.mem_records_iff.mp listed with ⟨path, member, rfl⟩
    exact (account.record_spec member).1
  · intro record listed
    rcases account.mem_records_iff.mp listed with ⟨path, member, rfl⟩
    exact (account.record_spec member).2
  · rw [sums, Proceedings.records, List.map_map]
    exact congrArg List.sum (List.map_congr_left fun report _ =>
      (report.chunkCount_record session).symm)
  · intro record listed success
    rcases account.mem_records_iff.mp listed with ⟨path, member, rfl⟩
    exact ⟨path, member, congrArg Path.text (account.describe.report_path member).symm,
      account.renewed_of_success member success⟩

end Ingestion.Account

namespace Small

open Ingestion

end Small

end SourceHarvest
