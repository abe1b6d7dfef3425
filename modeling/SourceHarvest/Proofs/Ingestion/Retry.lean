import SourceHarvest.Proofs.Ingestion.TableServices

/-!
# Failed files in the next run

A file that failed keeps the fingerprint that it had.  So the next run skips it exactly where the
failed attempt was not needed: where the run was forced and the fingerprint was up to date.
-/

namespace SourceHarvest

namespace Ingestion

open FileJob

variable {σ : Type} {services : Services σ} {session : Session} {configuration : Configuration}
  {before after : World σ}

namespace Account

variable (account : Account services session configuration before after)

/-- A run that is not forced skips a file exactly where its fingerprint is up to date. -/
theorem skipped_iff (unforced : configuration.force = false) {path : Path}
    (member : path ∈ account.files) :
    (account.proceedings.report path).outcome = .skipped ↔
      account.ledger.outdated (account.proceedings.seen path) path = false := by
  rw [(account.course member).skipped_iff]
  exact and_iff_right unforced

/-- A file that failed was due, and keeps the fingerprint that it had. -/
theorem failed_spec {path : Path} (member : path ∈ account.files) {status : Status}
    {message : String}
    (failed : (account.proceedings.report path).outcome = .failed status message) :
    (configuration.force = true ∨
      account.ledger.outdated (account.proceedings.seen path) path = true) ∧
      account.finalLedger.get? path = account.ledger.get? path := by
  obtain ⟨due, unmarked, _⟩ := (account.course member).of_failed failed
  refine ⟨due, ?_⟩
  rw [account.get?_finalLedger, if_pos member, unmarked, Option.none_or]

end Account

/-- A file that failed is skipped by the next run over the same tree exactly where the attempt was
forced and its fingerprint was up to date. -/
theorem skipped_after_failure_iff {nextServices : Services σ} {nextSession : Session}
    {nextConfiguration : Configuration} {middle final : World σ}
    (account : Account services session configuration before after)
    (next : Account nextServices nextSession nextConfiguration middle final)
    (sameTree : middle.tree = after.tree)
    (sameCache : nextConfiguration.cachePath = configuration.cachePath)
    (unforced : nextConfiguration.force = false)
    (keeps : before.tree.Keeps configuration.cachePath) (counted : account.Counted) {path : Path}
    (member : path ∈ account.files) (again : path ∈ next.files) {status : Status} {message : String}
    (failed : (account.proceedings.report path).outcome = .failed status message)
    (unmodified : (next.proceedings.seen path).millis? path =
      (account.proceedings.seen path).millis? path) :
    (next.proceedings.report path).outcome = .skipped ↔
      configuration.force = true ∧
        account.ledger.outdated (account.proceedings.seen path) path = false := by
  rcases account.failed_spec member failed with ⟨due, kept⟩
  have ledger : next.ledger = account.finalLedger := by
    have loaded := next.loaded
    rw [sameTree, sameCache, (account.load_after keeps counted).1] at loaded
    exact (Except.ok.inj loaded).symm
  have same : next.ledger.outdated (next.proceedings.seen path) path =
      account.ledger.outdated (account.proceedings.seen path) path := by
    rw [Ledger.outdated, Ledger.outdated, ledger, kept, unmodified]
  rw [next.skipped_iff unforced again, same]
  constructor
  · intro current
    refine ⟨due.resolve_right ?_, current⟩
    rw [current]
    exact Bool.false_ne_true
  · exact fun both => both.2

end Ingestion

/-! ## A failure that is not made good -/

namespace Small

open Ingestion

/-- One file, with an up-to-date fingerprint in the cache. -/
def known : World RowTable :=
  ⟨tree [("A.java", "class A")] (some ⟨[("/r/A.java", ⟨"", 5000, 1⟩)]⟩), .empty, []⟩

theorem sound_known : known.tree.Sound :=
  sound_tree (some _) (by decide) (by decide)

/-- There are no vectors to be had. -/
def silent (_ : List String) : Except Failure (List Embedding) :=
  .error (Failure.ofMessage "no vectors")

def forced : Configuration :=
  { configuration with force := true }

/-- The fingerprint in the cache. -/
def upToDate : Ledger :=
  ⟨[("/r/A.java", ⟨"", 5000, 1⟩)]⟩

theorem ordered_upToDate : upToDate.Ordered :=
  List.pairwise_singleton _ _

theorem fits_upToDate : upToDate.Fits := by
  simp [upToDate, Ledger.Fits, Fingerprint.Fits, Json.greatestWord]

theorem load_known : Ledger.load known.tree configuration.cachePath = .ok upToDate :=
  load_cache _ ordered_upToDate fits_upToDate

/-- The file was to be indexed once more, in vain. -/
def failed : World RowTable :=
  ((run (services silent) (session []) forced).run known).2

/-- What the forced run comes to before it saves the fingerprints. -/
def attempted : Progress × World RowTable :=
  runBatches (services silent) (session []) forced ⟨"/r"⟩
    (blocksOf (forced.batchSize - 1) [file]).zipIdx ⟨RunSummary.start 1, upToDate⟩ known

theorem tree_attempted : attempted.2.tree = known.tree := by
  obtain ⟨proceedings, describe, _⟩ := exists_describe_files (services silent) (session []) forced
    ⟨"/r"⟩ (List.nodup_singleton file) ⟨RunSummary.start 1, upToDate⟩ known
  exact describe.tree

/-- The file fails, and the fingerprint that was loaded is saved once more. -/
theorem run_known_eq : (run (services silent) (session []) forced).run known =
    (.ok ⟨1, 0, 0, 1, 0, 0,
        [⟨file, .embeddingError, "Embedding request failed: no vectors"⟩]⟩,
      { attempted.2 with tree := (upToDate.save configuration.cachePath known.tree).2 }) := by
  have loaded : Ledger.load known.tree forced.cachePath = .ok upToDate := load_known
  have resolved : resolveRoot forced known.tree = .ok ⟨"/r"⟩ := by decide +kernel
  have discovered : (discovery (services silent) forced).run known.tree ⟨"/r"⟩ = .ok [file] := by
    decide +kernel
  have worked : attempted =
      (⟨⟨1, 0, 0, 1, 0, 0,
        [⟨file, .embeddingError, "Embedding request failed: no vectors"⟩]⟩, upToDate⟩,
        attempted.2) := by
    have summed : attempted.1.summary = ⟨1, 0, 0, 1, 0, 0,
        [⟨file, .embeddingError, "Embedding request failed: no vectors"⟩]⟩ := by decide +kernel
    have kept : attempted.1.ledger = upToDate := by decide +kernel
    rw [← summed, ← kept]
  have saved : (upToDate.save configuration.cachePath known.tree).1 = .ok () := by decide +kernel
  rw [run_of_discovered (by decide) rfl loaded resolved discovered worked, tree_attempted]
  exact congrArg (·, _) (congrArg (Except.map _) saved)

theorem failed_eq : failed =
    { attempted.2 with tree := (upToDate.save configuration.cachePath known.tree).2 } :=
  congrArg Prod.snd run_known_eq

theorem run_known : (run (services silent) (session []) forced).run known =
    (.ok ⟨1, 0, 0, 1, 0, 0,
      [⟨file, .embeddingError, "Embedding request failed: no vectors"⟩]⟩, failed) := by
  rw [run_known_eq, ← failed_eq]

theorem load_failed : Ledger.load failed.tree configuration.cachePath = .ok upToDate := by
  have keeps : known.tree.Keeps configuration.cachePath :=
    (apart_tree [("A.java", "class A")] (some _) sound_known).keeps
  have saved : upToDate.save configuration.cachePath known.tree = (.ok (), failed.tree) := by
    have result : (upToDate.save configuration.cachePath known.tree).1 = .ok () := by decide +kernel
    rw [failed_eq, ← result]
  exact (Ledger.load_of_save keeps ordered_upToDate fits_upToDate saved).1

/-- The world after the next run. -/
def passed : World RowTable :=
  ((run (services embed) (session []) configuration).run failed).2

/-- The next run works, and finds the file as it was. -/
theorem run_failed :
    ((run (services embed) (session []) configuration).run failed).1 =
        .ok ⟨1, 0, 1, 0, 0, 0, []⟩ ∧
      resolveRoot configuration failed.tree = .ok ⟨"/r"⟩ ∧
      (discovery (services embed) configuration).run failed.tree ⟨"/r"⟩ = .ok [file] ∧
      failed.tree.millis? file = known.tree.millis? file := by
  have resolved : resolveRoot configuration failed.tree = .ok ⟨"/r"⟩ := by
    rw [failed_eq]
    decide +kernel
  have discovered :
      (discovery (services embed) configuration).run failed.tree ⟨"/r"⟩ = .ok [file] := by
    rw [failed_eq]
    decide +kernel
  refine ⟨?_, resolved, discovered, ?_⟩
  · rw [run_of_discovered (by decide) rfl load_failed resolved discovered Prod.mk.eta.symm,
      failed_eq]
    decide +kernel
  · rw [failed_eq]
    decide +kernel

/-- A file that a forced run failed on is skipped by the next run. -/
theorem skipped_after_failure :
    ∃ (account : Account (services silent) (session []) forced known failed)
      (next : Account (services embed) (session []) configuration failed passed)
      (message : String),
      (account.proceedings.report file).outcome = .failed .embeddingError message ∧
        (next.proceedings.report file).outcome = .skipped := by
  rcases exists_account_of_sound sound_known run_known with ⟨account, summary⟩
  have keeps : known.tree.Keeps configuration.cachePath :=
    (apart_tree [("A.java", "class A")] (some _) sound_known).keeps
  have counted : account.Counted := account.counted_of_summary (by rw [summary]; decide)
  have sound : failed.tree.Sound := (account.load_after keeps counted).2.1
  rcases run_failed with ⟨passes, resolved, discovered, unmodified⟩
  have ran : (run (services embed) (session []) configuration).run failed =
      (.ok ⟨1, 0, 1, 0, 0, 0, []⟩, passed) := by
    rw [passed]
    exact eq_mk_snd passes
  rcases exists_account_of_sound sound ran with ⟨next, _⟩
  have again : file ∈ next.files := by
    rw [(files_eq next resolved discovered).2]
    exact List.mem_singleton_self file
  obtain ⟨member, failing⟩ := account.mem_failures_iff.mp (by
    rw [summary]
    exact List.mem_singleton_self _)
  rw [← account.seen_eq rfl member, ← next.seen_eq rfl again] at unmodified
  have current :
      account.ledger.outdated (account.proceedings.seen file) file = false := by
    rw [account.seen_eq rfl member, Except.ok.inj (account.loaded.symm.trans load_known)]
    decide +kernel
  exact ⟨account, next, _, failing, (skipped_after_failure_iff account next rfl rfl rfl keeps
    counted member again failing unmodified).mpr ⟨rfl, current⟩⟩

end Small

end SourceHarvest
