import SourceHarvest.Proofs.Ingestion.Processing

/-!
# What the work on a file asks about

Whatever it is answered, the work on a file asks the file tree and the grammars about that one file
and about no other.
-/

namespace SourceHarvest

namespace Job

variable {α β : Type} {allowed : Request → Prop}

/-- All questions of a job are allowed, whatever it is answered. -/
def Asks (allowed : Request → Prop) : Job α → Prop
  | .done _ => True
  | .ask request resume => allowed request ∧ ∀ answer, (resume answer).Asks allowed

theorem asks_bind {job : Job α} {next : α → Job β} (asks : job.Asks allowed)
    (further : ∀ result, (next result).Asks allowed) : (job >>= next).Asks allowed := by
  induction job with
  | done result => exact further result
  | ask request resume inductionHypothesis =>
      exact ⟨asks.1, fun answer => inductionHypothesis answer (asks.2 answer)⟩

theorem asks_map {job : Job α} (change : α → β) (asks : job.Asks allowed) :
    (change <$> job).Asks allowed := by
  rw [map_eq_pure_bind]
  exact asks_bind asks fun _ => trivial

theorem asks_question {request : Request} (fine : allowed request) :
    (question request).Asks allowed :=
  ⟨fine, fun _ => trivial⟩

theorem asks_exceptBind {work : ExceptT Failure Job α} {next : α → ExceptT Failure Job β}
    (asks : work.run.Asks allowed) (further : ∀ result, (next result).run.Asks allowed) :
    (work >>= next).run.Asks allowed := by
  rw [ExceptT.run_bind]
  apply asks_bind asks
  intro result
  cases result with
  | ok value => exact further value
  | error failure => trivial

theorem asks_exceptQuestion {request : Request} (fine : allowed request) :
    (ExceptT.lift (question request) : ExceptT Failure Job request.Answer).run.Asks allowed := by
  rw [ExceptT.run_lift]
  exact asks_map _ (asks_question fine)

/-- A job asks nothing in a dialogue that is not allowed. -/
theorem Asks.of_yields {job : Job α} {dialogue : List Reply} {result : α}
    (asks : job.Asks allowed) (yields : Yields job dialogue result) :
    ∀ reply ∈ dialogue, allowed reply.request := by
  induction yields with
  | done => exact fun _ impossible => (List.not_mem_nil impossible).elim
  | ask answer _ inductionHypothesis =>
      intro reply member
      rcases List.mem_cons.mp member with rfl | later
      · exact asks.1
      · exact inductionHypothesis (asks.2 answer) reply later

end Job

/-- The question is about no other file than one. -/
def Request.About (path : Path) : Request → Prop
  | .modified asked | .read asked | .parse asked _ => asked = path
  | _ => True

namespace FileJob

open Job

variable {allowed : Request → Prop}

theorem asks_modifiedMillis {path : Path} (fine : allowed (.modified path)) :
    (Tracking.modifiedMillis path).run.Asks allowed := by
  rw [Tracking.modifiedMillis]
  refine asks_exceptBind (asks_exceptQuestion fine) fun found => ?_
  cases found with
  | error => trivial
  | ok time =>
      simp only
      split <;> trivial

/-- To find out whether a file has changed, nothing but its time is asked for. -/
theorem asks_hasChanged (ledger : Ledger) {path : Path} (fine : allowed (.modified path)) :
    (Tracking.hasChanged ledger path).Asks allowed := by
  rw [Tracking.hasChanged]
  cases ledger.get? path with
  | none => trivial
  | some fingerprint =>
      apply asks_bind (asks_modifiedMillis fine)
      intro found
      cases found <;> trivial

theorem asks_readSource {path : Path} (fine : allowed (.read path)) :
    (readSource path).run.Asks allowed := by
  rw [readSource, Tracking.readBytes]
  refine asks_exceptBind (asks_exceptBind (asks_exceptQuestion fine) fun found => ?_) fun content => ?_
  · cases found <;> trivial
  · cases String.fromUTF8? content <;> trivial

theorem asks_embed (chunks : List Chunk) (fine : ∀ texts, allowed (.embed texts)) :
    (embed chunks).run.Asks allowed := by
  rw [embed]
  split
  · trivial
  · apply asks_exceptBind (asks_map _ (asks_question (fine _)))
    intro found
    split <;> trivial

theorem asks_evict (needed : Bool) {relativePath : String} (fine : allowed (.evict relativePath)) :
    (evict needed relativePath).run.Asks allowed := by
  rw [evict]
  split
  · exact asks_map _ (asks_question fine)
  · trivial

theorem asks_upsert (chunks : List Chunk) (embeddings : List Embedding)
    (fine : allowed (.upsert chunks embeddings)) : (upsert chunks embeddings).run.Asks allowed := by
  rw [upsert]
  split
  · trivial
  · exact asks_map _ (asks_question fine)

theorem asks_ingest (configuration : Configuration) (root path : Path) (indexedBefore : Bool) :
    (ingest configuration root path indexedBefore).run.Asks (Request.About path) := by
  rw [ingest]
  refine asks_exceptBind (asks_modifiedMillis rfl) fun _ => ?_
  refine asks_exceptBind (asks_readSource rfl) fun _ => ?_
  refine asks_exceptBind (asks_question rfl) fun _ => ?_
  apply asks_exceptBind (by trivial)
  intro _
  apply asks_exceptBind (asks_embed _ fun _ => trivial)
  intro _
  apply asks_exceptBind (asks_evict _ trivial)
  intro _
  exact asks_exceptBind (asks_upsert _ _ trivial) fun _ => trivial

/-- The work on a file asks about that file and no other. -/
theorem asks_process (configuration : Configuration) (ledger : Ledger) (root path : Path) :
    (process configuration ledger root path).Asks (Request.About path) := by
  rw [process_eq]
  refine asks_bind ?_ fun due => ?_
  · split
    · trivial
    · exact asks_hasChanged ledger rfl
  · split
    · exact asks_map _ (asks_ingest configuration root path _)
    · trivial

/-- Nothing but the time of a file is asked for until it is skipped or begun to be indexed. -/
theorem cases_of_yields_process {configuration : Configuration} {ledger : Ledger} {root path : Path}
    {dialogue : List Reply} {result : FileReport}
    (yields : Yields (process configuration ledger root path) dialogue result) :
    ∃ asking work, dialogue = asking ++ work ∧ (∀ reply ∈ asking, reply.request = .modified path) ∧
      (work = [] ∧ result = ⟨path, .skipped, none, 0⟩ ∨
        ∃ attempt, Yields (ingest configuration root path (ledger.has path)).run work attempt ∧
          result = report path attempt) := by
  rw [process_eq, yields_bind_iff] at yields
  obtain ⟨asking, due, work, rfl, decided, yields⟩ := yields
  have asks : Asks (fun request => request = .modified path)
      (if configuration.force then pure true else Tracking.hasChanged ledger path) := by
    split
    · trivial
    · exact asks_hasChanged ledger rfl
  refine ⟨asking, work, rfl, asks.of_yields decided, ?_⟩
  cases due with
  | false =>
      obtain ⟨rfl, rfl⟩ := yields_pure_iff.mp yields
      exact .inl ⟨rfl, rfl⟩
  | true =>
      obtain ⟨attempt, attempted, rfl⟩ := yields_map_iff.mp yields
      exact .inr ⟨attempt, attempted, rfl⟩

/-- Of a file that is skipped nothing but its time was asked for. -/
theorem asked_of_skipped {configuration : Configuration} {ledger : Ledger} {root path : Path}
    {dialogue : List Reply} {result : FileReport}
    (yields : Yields (process configuration ledger root path) dialogue result)
    (skipped : result.outcome = .skipped) :
    ∀ reply ∈ dialogue, reply.request = .modified path := by
  obtain ⟨asking, work, rfl, looked, ⟨rfl, _⟩ | ⟨attempt, _, rfl⟩⟩ := cases_of_yields_process yields
  · rwa [List.append_nil]
  · cases attempt <;> cases skipped

end FileJob

/-- The answers of the services do not depend on what they were asked before. -/
structure Services.Steady {σ : Type} (services : Services σ) : Prop where
  embed : ∀ texts left right, (services.embed texts left).1 = (services.embed texts right).1
  upsert : ∀ chunks embeddings left right,
    (services.upsert chunks embeddings left).1 = (services.upsert chunks embeddings right).1
  deleteFile : ∀ relativePath left right,
    (services.deleteFile relativePath left).1 = (services.deleteFile relativePath right).1

end SourceHarvest
