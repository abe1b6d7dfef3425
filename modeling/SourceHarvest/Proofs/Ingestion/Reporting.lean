import SourceHarvest.Proofs.Failure.Composition
import SourceHarvest.Proofs.Ingestion.Aborting

/-!
# The stage at which a file fails

A call for vectors or to the store that fails ends the work on a file, and the words around its
failure say at which stage that was.  So the status of the file is that of the stage, unless the
words of the failure itself have a phrase that is looked for earlier, or the type of its cause tells
another.  Where the vectors are only too few or too many, the words are the pipeline's own, and the
status is that of the stage unless a number in them looks like another status.
-/

namespace SourceHarvest

/-- The failure that a reply ends the work on a file with. -/
def Reply.stops? : Reply → Option Failure
  | ⟨.embed texts, answer⟩ =>
      match (answer : Except Failure (List Embedding)) with
      | .error failure => some (failure.context "Embedding request failed")
      | .ok embeddings =>
          if embeddings.length = texts.length then none
          else
            some (Failure.ofMessage
              s!"Embedding provider returned {embeddings.length} vectors for {texts.length} inputs")
  | ⟨.evict _, answer⟩ =>
      match (answer : Except Failure Unit) with
      | .error failure => some (failure.context "Failed to evict stale rows from vector store")
      | .ok () => none
  | ⟨.upsert .., answer⟩ =>
      match (answer : Except Failure Unit) with
      | .error failure => some (failure.context "Vector store upsert failed")
      | .ok () => none
  | _ => none

namespace FileJob

open Job

/-! ### Replies that end the work -/

/-- A reply that ends the work ends it with its own failure. -/
def Heeds {α : Type} (work : ExceptT Failure Job α) : Prop :=
  ∀ dialogue result, Yields work.run dialogue result →
    ∀ reply ∈ dialogue, ∀ failure, reply.stops? = some failure → result = .error failure

variable {α β : Type}

theorem heeds_bind {work : ExceptT Failure Job α} {next : α → ExceptT Failure Job β}
    (heeds : Heeds work) (further : ∀ value, Heeds (next value)) : Heeds (work >>= next) := by
  intro dialogue result yields reply said failure stops
  rcases yields_exceptBind_iff.mp yields with
    ⟨reason, stopped, rfl⟩ | ⟨first, value, second, rfl, succeeded, rest⟩
  · have same := heeds _ _ stopped reply said failure stops
    rw [Except.error.inj same]
  · rcases List.mem_append.mp said with before | behind
    · cases heeds _ _ succeeded reply before failure stops
    · exact further value _ _ rest reply behind failure stops

/-- Work that asks no question whose answer can end it heeds all of them. -/
theorem heeds_of_asks {work : ExceptT Failure Job α}
    (asks : work.run.Asks fun request => ∀ answer, Reply.stops? ⟨request, answer⟩ = none) :
    Heeds work := by
  intro dialogue result yields reply said failure stops
  have goesOn : reply.stops? = none := asks.of_yields yields reply said reply.answer
  rw [goesOn] at stops
  cases stops

theorem heeds_embed (chunks : List Chunk) : Heeds (embed chunks) := by
  rw [embed]
  split
  · exact heeds_of_asks trivial
  · intro dialogue result yields reply said failure stops
    rcases yields_exceptBind_iff.mp yields with
      ⟨reason, stopped, rfl⟩ | ⟨first, found, second, rfl, succeeded, rest⟩
    · rcases yields_map_iff.mp stopped with ⟨answer, question, failed⟩
      obtain rfl := yields_question_iff.mp question
      obtain rfl := List.mem_singleton.mp said
      cases (answer : Except Failure (List Embedding)) with
      | ok => cases failed
      | error inner =>
          obtain rfl := Option.some.inj stops
          exact congrArg Except.error (Except.error.inj failed)
    · rcases yields_map_iff.mp succeeded with ⟨answer, question, given⟩
      obtain rfl := yields_question_iff.mp question
      cases (answer : Except Failure (List Embedding)) with
      | error inner => cases given
      | ok embeddings =>
          obtain rfl := Except.ok.inj given
          split at rest
          · rename_i same
            rcases yields_pure_iff.mp rest with ⟨rfl, rfl⟩
            obtain rfl := List.mem_singleton.mp said
            rw [Reply.stops?, if_pos same] at stops
            cases stops
          · rename_i different
            rcases yields_pure_iff.mp rest with ⟨rfl, rfl⟩
            obtain rfl := List.mem_singleton.mp said
            rw [Reply.stops?, if_neg different] at stops
            exact congrArg Except.error (Option.some.inj stops)

/-- A question whose answer is passed on heeds it if what is passed on ends the work as the answer
does. -/
theorem heeds_question {request : Request} {change : request.Answer → Except Failure α}
    (passes : ∀ answer failure, Reply.stops? ⟨request, answer⟩ = some failure →
      change answer = .error failure) :
    Heeds (ExceptT.mk (change <$> question request)) := by
  intro dialogue result yields reply said failure stops
  rcases yields_map_iff.mp yields with ⟨answer, asked, rfl⟩
  obtain rfl := yields_question_iff.mp asked
  obtain rfl := List.mem_singleton.mp said
  exact passes answer failure stops

theorem heeds_evict (needed : Bool) (relativePath : String) : Heeds (evict needed relativePath) := by
  rw [evict]
  split
  · refine heeds_question fun answer failure stops => ?_
    cases (answer : Except Failure Unit) with
    | ok => cases stops
    | error reason => exact congrArg Except.error (Option.some.inj stops)
  · exact heeds_of_asks trivial

theorem heeds_upsert (chunks : List Chunk) (embeddings : List Embedding) :
    Heeds (upsert chunks embeddings) := by
  rw [upsert]
  split
  · exact heeds_of_asks trivial
  · refine heeds_question fun answer failure stops => ?_
    cases (answer : Except Failure Unit) with
    | ok => cases stops
    | error reason => exact congrArg Except.error (Option.some.inj stops)

theorem heeds_ingest (configuration : Configuration) (root path : Path) (indexedBefore : Bool) :
    Heeds (ingest configuration root path indexedBefore) := by
  rw [ingest]
  refine heeds_bind (heeds_of_asks (asks_modifiedMillis fun _ => rfl)) fun _ => ?_
  refine heeds_bind (heeds_of_asks (asks_readSource fun _ => rfl)) fun _ => ?_
  refine heeds_bind (heeds_of_asks (asks_question fun _ => rfl)) fun _ => ?_
  refine heeds_bind (heeds_of_asks trivial) fun _ => ?_
  refine heeds_bind (heeds_embed _) fun _ => ?_
  refine heeds_bind (heeds_evict _ _) fun _ => ?_
  exact heeds_bind (heeds_upsert _ _) fun _ => heeds_of_asks trivial

/-- The work on a file is reported to have failed as the reply says that ended it. -/
theorem report_of_stops {configuration : Configuration} {ledger : Ledger} {root path : Path}
    {dialogue : List Reply} {result : FileReport}
    (yields : Yields (process configuration ledger root path) dialogue result) {reply : Reply}
    (said : reply ∈ dialogue) {failure : Failure} (stops : reply.stops? = some failure) :
    result = report path (.error failure) := by
  obtain ⟨asking, work, rfl, looked, rest⟩ := cases_of_yields_process yields
  have working : reply ∈ work := by
    rcases List.mem_append.mp said with before | working
    · rcases reply with ⟨request, answer⟩
      obtain rfl : request = .modified path := looked _ before
      cases stops
    · exact working
  rcases rest with ⟨rfl, _⟩ | ⟨attempt, attempted, rfl⟩
  · cases working
  · rw [heeds_ingest _ _ _ _ _ _ attempted reply working failure stops]

end FileJob

/-! ## The status of a stage -/

/-- A file failed in a call: its message names the call, and its status is that of the stage exactly if
the words of the failure have no phrase of an earlier rule.  Only the type of a cause can tell another
status. -/
def FileOutcome.FailedIn (outcome : FileOutcome) (purpose : String) (stage : Status)
    (failure : Failure) : Prop :=
  ∃ status, outcome = .failed status (purpose ++ ": " ++ failure.text) ∧
    if failure.typed?.any Cause.tellsStatus then status = Status.ofFailure failure
    else status = stage ↔ ∀ rule ∈ Status.earlier stage,
      Status.ruleMatches (Status.fold failure.text) rule = false

theorem FileJob.failedIn_report (path : Path) {purpose : String} {stage : Status}
    (tells : Status.classify purpose = stage) (known : stage ≠ .unknownError) (failure : Failure) :
    (report path (.error (failure.context purpose))).outcome.FailedIn purpose stage failure := by
  refine ⟨Status.ofFailure (failure.context purpose), ?_, ?_⟩
  · rw [← Failure.text_context]
    rfl
  · split
    · rename_i typed
      exact Status.ofFailure_of_tellsStatus typed purpose
    · rename_i untyped
      rw [Bool.not_eq_true, ← Failure.typed?_context failure purpose] at untyped
      rw [Status.ofFailure_eq_classify untyped]
      exact Status.classify_context_eq_iff tells known failure

/-- What the replies to calls say about the outcome of a file. -/
structure FileOutcome.Staged (outcome : FileOutcome) (dialogue : List Reply) : Prop where
  unembedded : ∀ texts, ∀ failure : Failure, ⟨.embed texts, .error failure⟩ ∈ dialogue →
    outcome.FailedIn "Embedding request failed" .embeddingError failure
  miscounted : ∀ texts, ∀ embeddings : List Embedding, ⟨.embed texts, .ok embeddings⟩ ∈ dialogue →
    embeddings.length ≠ texts.length →
    outcome = .failed
      (if "429".toList <:+: (toString embeddings.length).toList ∨
          "429".toList <:+: (toString texts.length).toList
        then .rateLimit else .embeddingError)
      s!"Embedding provider returned {embeddings.length} vectors for {texts.length} inputs"
  unevicted : ∀ relativePath, ∀ failure : Failure,
    ⟨.evict relativePath, .error failure⟩ ∈ dialogue →
    outcome.FailedIn "Failed to evict stale rows from vector store" .storageError failure
  unstored : ∀ chunks embeddings, ∀ failure : Failure,
    ⟨.upsert chunks embeddings, .error failure⟩ ∈ dialogue →
    outcome.FailedIn "Vector store upsert failed" .storageError failure

/-- Whatever the replies are, the outcome of a file is that of the stage at which it failed. -/
theorem FileJob.staged_of_yields {configuration : Configuration} {ledger : Ledger}
    {root path : Path} {dialogue : List Reply} {result : FileReport}
    (yields : Job.Yields (process configuration ledger root path) dialogue result) :
    result.outcome.Staged dialogue := by
  constructor
  · intro texts failure said
    rw [report_of_stops yields said rfl]
    exact failedIn_report path (by decide +kernel) (by decide) failure
  · intro texts embeddings said different
    have stops : Reply.stops? ⟨.embed texts, .ok embeddings⟩ = some (Failure.ofMessage
        s!"Embedding provider returned {embeddings.length} vectors for {texts.length} inputs") :=
      if_neg different
    rw [report_of_stops yields said stops, ← Status.classify_miscount]
    rfl
  · intro relativePath failure said
    rw [report_of_stops yields said rfl]
    exact failedIn_report path (by decide +kernel) (by decide) failure
  · intro chunks embeddings failure said
    rw [report_of_stops yields said rfl]
    exact failedIn_report path (by decide +kernel) (by decide) failure

namespace Ingestion

variable {σ : Type} {services : Services σ} {session : Session} {configuration : Configuration}
  {before : World σ}

/-- A run comes to no file, or every file that fails in a call has the outcome of its stage. -/
theorem outcomes_by_stage (session : Session) (sound : before.tree.Sound) :
    (∃ failure remote, Halts services configuration before failure remote ∧
      (run services session configuration).run before = (.error failure, { before with remote })) ∨
    ∃ (middle : World σ) (work : Work services session configuration before middle),
      (run services session configuration).run before =
        ((work.finalLedger.save configuration.cachePath middle.tree).1.map fun _ => work.summary,
          { middle with
            tree := (work.finalLedger.save configuration.cachePath middle.tree).2 }) ∧
      ∀ path ∈ work.files,
        (work.proceedings.report path).outcome.Staged (work.proceedings.dialogue path) := by
  rcases halts_or_begins services configuration before with ⟨failure, remote, halts⟩ | ⟨files, begins⟩
  · exact .inl ⟨failure, remote, halts, run_of_halts halts⟩
  · rcases exists_work session sound begins with ⟨middle, work, _, ran⟩
    exact .inr ⟨middle, work, ran, fun path member =>
      FileJob.staged_of_yields (work.describe.yields path member)⟩

end Ingestion

namespace Small

open Ingestion

/-- For every list of texts there are 429 vectors. -/
def crowd (_ : List String) : Except Failure (List Embedding) :=
  .ok (List.replicate 429 ⟨[]⟩)

theorem run_crowd : ((run (services crowd) (session []) configuration).run fresh).1 =
    .ok ⟨1, 0, 0, 1, 0, 0,
      [⟨file, .rateLimit, "Embedding provider returned 429 vectors for 1 inputs"⟩]⟩ := by
  decide +kernel

/-- Too many vectors are taken for too many requests where there are 429 of them. -/
theorem outcomes_by_stage_crowd :
    ∃ (middle : World RowTable) (work : Work (services crowd) (session []) configuration fresh middle),
      (work.proceedings.report file).outcome.Staged (work.proceedings.dialogue file) ∧
      (work.proceedings.report file).outcome =
        .failed .rateLimit "Embedding provider returned 429 vectors for 1 inputs" := by
  have summed := run_crowd
  rcases outcomes_by_stage (session []) sound_fresh with
    ⟨_, _, _, stopped⟩ | ⟨middle, work, ran, staged⟩
  · rw [stopped] at summed
    cases summed
  rw [ran] at summed
  have listed : ⟨file, .rateLimit, "Embedding provider returned 429 vectors for 1 inputs"⟩ ∈
      work.summary.failures := by
    rw [work.summary_eq summed]
    exact List.mem_singleton_self _
  rcases work.describe.mem_failures_iff.mp listed with ⟨member, outcome⟩
  exact ⟨middle, work, staged file member, outcome⟩

end Small

end SourceHarvest
