import SourceHarvest.Chunk.Basic
import SourceHarvest.Embedding.Basic
import SourceHarvest.Failure.Basic
import SourceHarvest.Syntax.Tree

/-!
# Jobs

A job is work on one file, as a tree of questions to the world outside.  Between two
questions nothing of the world is seen, so whatever else happens in the world happens
between them.  A job can be run in one go, or be taken one question at a time, in
turns with other jobs.
-/

namespace SourceHarvest

/-- A question to the world outside. -/
inductive Request where
  /-- When was the file last changed? -/
  | modified (path : Path)
  /-- What are the bytes of the file? -/
  | read (path : Path)
  /-- What is the syntax tree of this source? -/
  | parse (path : Path) (source : String)
  /-- What are the vectors of these texts? -/
  | embed (texts : List String)
  /-- Drop the stored chunks of a file. -/
  | evict (relativePath : String)
  /-- Store chunks with their vectors. -/
  | upsert (chunks : List Chunk) (embeddings : List Embedding)

/-- What a question is answered with. -/
def Request.Answer : Request → Type
  | modified _ => Except FileError Int
  | read _ => Except FileError ByteArray
  | parse .. => Except Failure ParsedSource
  | embed _ => Except Failure (List Embedding)
  | evict _ => Except Failure Unit
  | upsert .. => Except Failure Unit

/-- Work that ends in a result after any number of questions. -/
inductive Job (α : Type) where
  | done (result : α)
  | ask (request : Request) (resume : request.Answer → Job α)

namespace Job

/-- Go on with further work on the result of a job. -/
def andThen {α β : Type} (job : Job α) (next : α → Job β) : Job β :=
  match job with
  | done result => next result
  | ask request resume => ask request fun answer => (resume answer).andThen next

instance : Monad Job where
  pure := done
  bind := andThen

/-- Ask one question. -/
def question (request : Request) : Job request.Answer :=
  ask request done

/-- Run a job to its end in a world that answers questions and may change by them. -/
def run {ω α : Type} (answer : (request : Request) → ω → request.Answer × ω) :
    Job α → ω → α × ω
  | done result, world => (result, world)
  | ask request resume, world =>
      let (reply, changed) := answer request world
      run answer (resume reply) changed

theorem andThen_done {α : Type} (job : Job α) : job.andThen done = job := by
  induction job with
  | done => rfl
  | ask request resume inductionHypothesis =>
      simp only [andThen]
      congr
      funext answer
      exact inductionHypothesis answer

theorem andThen_assoc {α β γ : Type} (job : Job α) (first : α → Job β) (second : β → Job γ) :
    (job.andThen first).andThen second = job.andThen fun result => (first result).andThen second := by
  induction job with
  | done => rfl
  | ask request resume inductionHypothesis =>
      simp only [andThen]
      congr
      funext answer
      exact inductionHypothesis answer

instance : LawfulMonad Job :=
  LawfulMonad.mk' Job andThen_done (fun _ _ => rfl) andThen_assoc

/-- Running work in two parts runs the parts one after the other. -/
theorem run_andThen {ω α β : Type} (answer : (request : Request) → ω → request.Answer × ω)
    (job : Job α) (next : α → Job β) (world : ω) :
    (job.andThen next).run answer world =
      (next (job.run answer world).1).run answer (job.run answer world).2 := by
  induction job generalizing world with
  | done => rfl
  | ask request resume inductionHypothesis => exact inductionHypothesis _ _

end Job

end SourceHarvest
