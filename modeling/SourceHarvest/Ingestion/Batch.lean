import SourceHarvest.Ingestion.Job

/-!
# Batches of jobs

The jobs of a batch are worked on side by side, up to a greatest number of them at a
time.  A schedule says, question by question, whose turn it is; when it has run out,
the jobs that are left are finished in order.  Results come in the order in which
jobs end.
-/

namespace SourceHarvest

/-- Jobs that are being worked on, jobs that wait, and the results so far, latest first. -/
structure Batch (α : Type) where
  running : List (Job α)
  waiting : List (Job α)
  finished : List α

namespace Batch

/-- Take jobs from those that wait while there is room for them. -/
def fill {α : Type} (limit : Nat) (batch : Batch α) : Batch α :=
  let room := limit - batch.running.length
  { batch with
    running := batch.running ++ batch.waiting.take room
    waiting := batch.waiting.drop room }

/-- A batch of jobs before any work on it. -/
def ofJobs {α : Type} (limit : Nat) (jobs : List (Job α)) : Batch α :=
  fill limit ⟨[], jobs, []⟩

/-- Let the job at a place ask one question.  A job that is done makes room for another. -/
def turn {ω α : Type} (answer : (request : Request) → ω → request.Answer × ω) (limit pick : Nat)
    (batch : Batch α) (world : ω) : Batch α × ω :=
  let place := pick % batch.running.length
  match batch.running[place]? with
  | none => (batch, world)
  | some (.done result) =>
      (fill limit
        { batch with
          running := batch.running.eraseIdx place
          finished := result :: batch.finished }, world)
  | some (.ask request resume) =>
      let (reply, changed) := answer request world
      ({ batch with running := batch.running.set place (resume reply) }, changed)

/-- Finish jobs one after the other. -/
def finish {ω α : Type} (answer : (request : Request) → ω → request.Answer × ω) :
    List (Job α) → ω → List α × ω
  | [], world => ([], world)
  | job :: rest, world =>
      let (result, changed) := job.run answer world
      let (results, final) := finish answer rest changed
      (result :: results, final)

/-- Work on a batch by a schedule. -/
def runBy {ω α : Type} (answer : (request : Request) → ω → request.Answer × ω) (limit : Nat) :
    List Nat → Batch α → ω → List α × ω
  | [], batch, world =>
      let (results, final) := finish answer (batch.running ++ batch.waiting) world
      (batch.finished.reverse ++ results, final)
  | pick :: schedule, batch, world =>
      let (next, changed) := batch.turn answer limit pick world
      runBy answer limit schedule next changed

/-- Work on jobs side by side by a schedule. -/
def run {ω α : Type} (answer : (request : Request) → ω → request.Answer × ω) (limit : Nat)
    (schedule : List Nat) (jobs : List (Job α)) (world : ω) : List α × ω :=
  runBy answer limit schedule (ofJobs limit jobs) world

theorem finish_append {ω α : Type} (answer : (request : Request) → ω → request.Answer × ω)
    (first second : List (Job α)) (world : ω) :
    finish answer (first ++ second) world =
      let (results, middle) := finish answer first world
      let (more, final) := finish answer second middle
      (results ++ more, final) := by
  induction first generalizing world with
  | nil => rfl
  | cons job rest inductionHypothesis => simp only [List.cons_append, finish, inductionHypothesis]

/-- Without a schedule jobs run one after the other. -/
theorem run_nil {ω α : Type} (answer : (request : Request) → ω → request.Answer × ω) (limit : Nat)
    (jobs : List (Job α)) (world : ω) :
    run answer limit [] jobs world = finish answer jobs world := by
  simp [run, runBy, ofJobs, fill, List.take_append_drop]

end Batch

end SourceHarvest
