import SourceHarvest.Proofs.Fingerprint.Resaving
import SourceHarvest.Proofs.Ingestion.Accounting
import SourceHarvest.Proofs.Ingestion.Isolation
import SourceHarvest.Proofs.Ingestion.Orderly
import SourceHarvest.Proofs.Ingestion.Retry
import SourceHarvest.Proofs.VectorStore.Absent

/-!
# A run after a run

A second run finds the tree as the first one left it.  It finds the fingerprints that the first one
saved, and every file as it was.  So it skips what the first run processed or skipped; and what failed
in the first run fails in the same way, without a change to the store.
-/

namespace SourceHarvest

namespace FileTree

variable {tree other : FileTree} {path : Path}

theorem millis?_congr (same : other.modified path = tree.modified path) :
    other.millis? path = tree.millis? path := by
  rw [millis?, millis?, same]

theorem source?_congr (same : other.read path = tree.read path) :
    other.source? path = tree.source? path := by
  rw [source?, source?, same]

end FileTree

/-- Reports without fingerprints leave a ledger as it is. -/
theorem Ledger.absorbAll_eq_self {ledger : Ledger} {reports : List FileReport}
    (none : ∀ report ∈ reports, report.fingerprint = none) : ledger.absorbAll reports = ledger := by
  induction reports with
  | nil => rfl
  | cons report rest inductionHypothesis =>
      have further := inductionHypothesis fun other member => none other (List.mem_cons_of_mem _ member)
      rw [absorbAll, List.foldl_cons, absorb, none report List.mem_cons_self]
      exact further

namespace Ingestion

open FileJob

variable {σ : Type} {services nextServices : Services σ} {session nextSession : Session}
  {configuration : Configuration} {force : Bool} {before middle final : World σ}

/-- A second run follows a first one with the same settings, but for whether it is forced.  Nothing
that the runs write is among the files: not the cache, which lies outside the root and whose temporary
file has a free name, and not the logs.  So the files of both runs are the same. -/
structure Follows (first : Account services session configuration before middle)
    (second : Account nextServices nextSession { configuration with force } middle final) : Prop where
  orderly : before.tree.Orderly first.root
  untaken : before.tree.Untaken configuration.cachePath
  outside : before.tree.CacheOutside first.root.names configuration.cachePath
  spares : session.Spares before.tree first.files
  nextSpares : nextSession.Spares middle.tree first.files
  root : second.root = first.root
  files : second.files = first.files
  counted : first.Counted

/-- A file is skipped, and no service is asked about it. -/
def Account.Passes (account : Account services session configuration before middle) (path : Path) :
    Prop :=
  (account.proceedings.report path).outcome = .skipped ∧
    ∀ reply ∈ account.proceedings.dialogue path, ¬ reply.request.ForServices

/-- What a second run leaves as the first one left it: the store and the cache, and what is told of
the files that failed. -/
structure Settled (rows : σ → RowTable)
    (first : Account services session configuration before middle)
    (second : Account nextServices nextSession { configuration with force } middle final) : Prop where
  processed : second.summary.processed = 0
  chunksCreated : second.summary.chunksCreated = 0
  errors : second.summary.errors = first.summary.errors
  failures : second.summary.failures.Perm first.summary.failures
  rows : rows final.remote = rows middle.remote
  loaded : ∃ ledger, Ledger.load middle.tree configuration.cachePath = .ok ledger ∧
    Ledger.load final.tree configuration.cachePath = .ok ledger

namespace Follows

variable {first : Account services session configuration before middle}
  {second : Account nextServices nextSession { configuration with force } middle final}
  (follows : Follows first second)

include follows

/-- What each of the runs saves is in the cache afterwards. -/
theorem loads : Ledger.load middle.tree configuration.cachePath = .ok first.finalLedger ∧
    Ledger.load final.tree configuration.cachePath =
      .ok (Ledger.decode second.finalLedger.encode) := by
  rcases session.logged_spec (first.proceedings.records session) follows.untaken.sound with
    ⟨sound, links⟩
  have untaken := follows.untaken.of_sameLinks sound links
  have middleSound := Ledger.sound_of_save untaken first.saved
  rcases nextSession.logged_spec (second.proceedings.records nextSession) middleSound with
    ⟨laterSound, _⟩
  have spec := Ledger.load_of_saved_twice untaken first.saved laterSound
    (nextSession.sameKinds_logged _ middleSound) second.saved
  rwa [Ledger.decode_encode ((Ledger.ordered_of_load first.loaded).absorbAll _)
    (first.fits_finalLedger follows.counted)] at spec

/-- The second run starts with the fingerprints that the first one ended with. -/
theorem ledger_eq : second.ledger = first.finalLedger :=
  Except.ok.inj (second.loaded.symm.trans follows.loads.1)

/-- If the second run ends with the same fingerprints, the cache is loaded as before. -/
theorem exists_loaded (same : second.finalLedger = first.finalLedger) :
    ∃ ledger, Ledger.load middle.tree configuration.cachePath = .ok ledger ∧
      Ledger.load final.tree configuration.cachePath = .ok ledger := by
  rcases follows.loads with ⟨loaded, reloaded⟩
  have decoded : Ledger.decode first.finalLedger.encode = first.finalLedger :=
    Ledger.decode_encode ((Ledger.ordered_of_load first.loaded).absorbAll _)
      (first.fits_finalLedger follows.counted)
  rw [same, decoded] at reloaded
  exact ⟨_, loaded, reloaded⟩

variable {path : Path} (member : path ∈ first.files)

include member

theorem again : path ∈ second.files :=
  follows.files ▸ member

/-- Both runs find the same file. -/
theorem modified_read_eq :
    (second.proceedings.seen path).modified path = (first.proceedings.seen path).modified path ∧
      (second.proceedings.seen path).read path = (first.proceedings.seen path).read path := by
  have spares : nextSession.Spares middle.tree second.files := follows.files ▸ follows.nextSpares
  have earlier := first.modified_read_seen follows.spares member
  have between := first.modified_read_after follows.orderly follows.untaken follows.outside
    follows.spares member
  have later := second.modified_read_seen spares (follows.again member)
  exact ⟨later.1.trans (between.1.trans earlier.1.symm),
    later.2.trans (between.2.trans earlier.2.symm)⟩

theorem millis?_eq :
    (second.proceedings.seen path).millis? path = (first.proceedings.seen path).millis? path :=
  FileTree.millis?_congr (follows.modified_read_eq member).1

/-- A file that the first run processed or skipped is up to date for the second one. -/
theorem outdated_eq_false
    (done : (first.proceedings.report path).outcome = .skipped ∨
      ∃ count, (first.proceedings.report path).outcome = .processed count) :
    second.ledger.outdated (second.proceedings.seen path) path = false := by
  have known := first.get?_finalLedger path
  rw [if_pos member, ← follows.ledger_eq] at known
  have course := first.course member
  rw [Ledger.outdated, known, follows.millis?_eq member]
  rcases done with skipped | ⟨count, processed⟩
  · rw [(course.of_skipped skipped).1, Option.none_or]
    exact (course.skipped_iff.mp skipped).2
  · obtain ⟨_, _, _, _, dated, _, _, _, _, marked, _⟩ := course.of_processed processed
    simp [marked, dated]

/-- A run that is not forced passes over such a file. -/
theorem passes (unforced : force = false)
    (done : (first.proceedings.report path).outcome = .skipped ∨
      ∃ count, (first.proceedings.report path).outcome = .processed count) :
    second.Passes path := by
  have again := follows.again member
  have skipped := (second.skipped_iff unforced again).mpr (follows.outdated_eq_false member done)
  refine ⟨skipped, fun reply said forServices => ?_⟩
  have asked := asked_of_skipped (second.describe.yields path again) skipped reply said
  rw [asked] at forServices
  exact forServices

/-- A file that failed fails again if it gets the same answers. -/
theorem fails_again (unforced : force = false) (firstUnforced : configuration.force = false)
    (consonant : Consonant (first.proceedings.dialogue path) (second.proceedings.dialogue path))
    {status : Status} {message : String}
    (failed : (first.proceedings.report path).outcome = .failed status message) :
    first.proceedings.dialogue path = second.proceedings.dialogue path ∧
      first.proceedings.report path = second.proceedings.report path := by
  have same : { configuration with force } = configuration := by
    rw [unforced, ← firstUnforced]
  have known : second.ledger.get? path = first.ledger.get? path := by
    rw [follows.ledger_eq]
    exact (first.failed_spec member failed).2
  have work : process { configuration with force } second.ledger second.root path =
      process configuration first.ledger first.root path := by
    rw [follows.root, process_congr _ first.root known]
    exact congrArg (fun settings => process settings first.ledger first.root path) same
  rcases follows.modified_read_eq member with ⟨modified, read⟩
  exact dialogue_eq_of_consonant first second work member (follows.again member) modified read
    consonant

/-- Either the second run passes over a file, or the file failed and fails again. -/
theorem passes_or_fails_again (unforced : force = false) (firstUnforced : configuration.force = false)
    (consonant : Consonant (first.proceedings.dialogue path) (second.proceedings.dialogue path)) :
    ((first.proceedings.report path).failure? = none ∧ second.Passes path) ∨
      ∃ status message, (first.proceedings.report path).outcome = .failed status message ∧
        first.proceedings.dialogue path = second.proceedings.dialogue path ∧
        first.proceedings.report path = second.proceedings.report path := by
  cases outcome : (first.proceedings.report path).outcome with
  | skipped =>
      exact .inl ⟨by rw [FileReport.failure?, outcome],
        follows.passes member unforced (.inl outcome)⟩
  | processed count =>
      exact .inl ⟨by rw [FileReport.failure?, outcome],
        follows.passes member unforced (.inr ⟨count, outcome⟩)⟩
  | failed status message =>
      exact .inr ⟨status, message, rfl,
        follows.fails_again member unforced firstUnforced consonant outcome⟩

omit member

section Settling

variable (unforced : force = false) (firstUnforced : configuration.force = false)
  (consonant : ∀ path ∈ first.files,
    Consonant (first.proceedings.dialogue path) (second.proceedings.dialogue path))

include unforced firstUnforced consonant

/-- What the second run reports on a file: nothing is processed, and failures are those of before. -/
theorem report_spec {path : Path} (member : path ∈ first.files) :
    (second.proceedings.report path).failure? = (first.proceedings.report path).failure? ∧
      (second.proceedings.report path).fingerprint = none ∧
      ∀ count, (second.proceedings.report path).outcome ≠ .processed count := by
  have course := second.course (follows.again member)
  rcases follows.passes_or_fails_again member unforced firstUnforced (consonant path member) with
    ⟨none, skipped, _⟩ | ⟨status, message, failed, _, same⟩
  · refine ⟨by rw [none, FileReport.failure?, skipped], (course.of_skipped skipped).1, ?_⟩
    rw [skipped]
    exact fun _ => FileOutcome.noConfusion
  · rw [same] at failed
    refine ⟨by rw [same], (course.of_failed failed).2.1, ?_⟩
    rw [failed]
    exact fun _ => FileOutcome.noConfusion

theorem finalLedger_eq : second.finalLedger = first.finalLedger := by
  rw [← follows.ledger_eq, Account.finalLedger]
  apply Ledger.absorbAll_eq_self
  intro report member
  rcases List.mem_map.mp member with ⟨path, inside, rfl⟩
  have listed := second.describe.order.mem_iff.mp inside
  exact (follows.report_spec unforced firstUnforced consonant (follows.files ▸ listed)).2.1

variable {rows : σ → RowTable} {met : Set (List UInt8)}

/-- All that the second run does to the store is to drop rows that are gone already. -/
theorem rows_eq (keeps : services.KeepsRows rows) (nextKeeps : nextServices.KeepsRows rows)
    (distinct : NoCollision met) (meets : first.Meets met) :
    rows final.remote = rows middle.remote := by
  rw [second.rows_after nextKeeps]
  apply RowTable.applyAll_eq_self
  intro effect done
  rcases List.mem_filterMap.mp done with ⟨reply, said, did⟩
  rcases List.mem_map.mp said with ⟨⟨path, spoken⟩, inside, rfl⟩
  have member : path ∈ first.files := follows.files ▸ second.describe.marked _ inside
  have own : effect ∈ effects (second.proceedings.dialogue path) :=
    List.mem_filterMap.mpr ⟨spoken, mem_spokenBy_iff.mpr inside, did⟩
  rcases follows.passes_or_fails_again member unforced firstUnforced (consonant path member) with
    ⟨_, skipped, quiet⟩ | ⟨status, message, failed, dialogue, same⟩
  · rw [((second.course (follows.again member)).of_skipped skipped).2] at own
    cases own
  · rw [← dialogue] at own
    have dropped : ∀ effect ∈ effects (first.proceedings.dialogue path),
        effect = .evicted (relativePath first.root path) := by
      rcases ((first.course member).of_failed failed).2.2 with silent | ⟨_, _, dropped⟩
      · simp [silent]
      · simp [dropped]
    refine ⟨_, dropped effect own, ?_⟩
    rw [first.rows_after keeps]
    refine RowTable.ofFile_applyAll_eq_nil (first.minded distinct meets) ?_ dropped
      (.inr (List.ne_nil_of_mem own))
    intro spoken said other place
    exact other (List.inj_on_of_nodup_map (first.apart_of_orderly follows.orderly)
      (first.describe.marked spoken said) member place)

/-- The second run leaves everything as the first one left it. -/
theorem settled (keeps : services.KeepsRows rows) (nextKeeps : nextServices.KeepsRows rows)
    (distinct : NoCollision met) (meets : first.Meets met) : Settled rows first second := by
  have spec {path : Path} (member : path ∈ first.files) :=
    follows.report_spec unforced firstUnforced consonant member
  have order := second.describe.order
  rw [follows.files] at order
  have unprocessed : ∀ report ∈ second.proceedings.reports,
      ∀ count, report.outcome ≠ .processed count := by
    intro report listed
    rcases List.mem_map.mp listed with ⟨path, inside, rfl⟩
    exact (spec (order.mem_iff.mp inside)).2.2
  have failures : (second.proceedings.reports.filterMap FileReport.failure?).Perm
      (first.proceedings.reports.filterMap FileReport.failure?) := by
    rw [Proceedings.reports, Proceedings.reports, List.filterMap_map, List.filterMap_map]
    refine ((order.trans first.describe.order.symm).filterMap _).trans (List.Perm.of_eq ?_)
    exact List.filterMap_congr fun path inside =>
      (spec (first.describe.order.mem_iff.mp inside)).1
  have summary := first.summed
  have nextSummary := second.summed
  rw [RunSummary.foldl_absorb] at summary nextSummary
  simp only [RunSummary.start, Nat.zero_add, List.nil_append] at summary nextSummary
  refine
    { processed := ?_
      chunksCreated := ?_
      errors := by rw [summary, nextSummary, failures.length_eq]
      failures := by rw [summary, nextSummary]; exact failures
      rows := follows.rows_eq unforced firstUnforced consonant keeps nextKeeps distinct meets
      loaded := follows.exists_loaded
        (follows.finalLedger_eq unforced firstUnforced consonant) }
  · rw [nextSummary]
    apply List.countP_eq_zero.mpr
    intro report listed
    have other := unprocessed report listed
    cases outcome : report.outcome with
    | processed count => exact absurd outcome (other count)
    | skipped | failed => simp
  · rw [nextSummary]
    apply List.sum_eq_zero
    intro count counted
    rcases List.mem_map.mp counted with ⟨report, listed, rfl⟩
    have other := unprocessed report listed
    rw [FileReport.chunkCount]
    split
    · rename_i processed
      exact absurd processed (other _)
    · rfl

end Settling

end Follows

end Ingestion

end SourceHarvest
