import SourceHarvest.Ingestion.Batch
import Mathlib.Data.List.Nodup

/-!
# Dialogues of jobs

A dialogue is a list of questions with the answers that they got.  A job yields a
result along a dialogue, and a world may or may not answer as a dialogue says.

However the jobs of a batch take turns, the questions of the whole batch make up one
dialogue in which every question is marked with the job that asked it.  The part of each
job is a dialogue along which that job alone yields its result.  So what is known of one
job by itself holds of it in any batch.
-/

namespace SourceHarvest

/-- A question with the answer that it got. -/
structure Reply where
  request : Request
  answer : request.Answer

namespace Job

variable {α β ω : Type}

/-- The job ends in a result when its questions get the answers of a dialogue. -/
inductive Yields : Job α → List Reply → α → Prop where
  | done (result : α) : Yields (.done result) [] result
  | ask {request : Request} {resume : request.Answer → Job α} {dialogue : List Reply}
      {result : α} (answer : request.Answer) (rest : Yields (resume answer) dialogue result) :
      Yields (.ask request resume) (⟨request, answer⟩ :: dialogue) result

theorem yields_done_iff {result found : α} {dialogue : List Reply} :
    Yields (.done result) dialogue found ↔ dialogue = [] ∧ found = result := by
  constructor
  · intro yields
    cases yields
    exact ⟨rfl, rfl⟩
  · rintro ⟨rfl, rfl⟩
    exact .done _

theorem yields_ask_iff {request : Request} {resume : request.Answer → Job α}
    {dialogue : List Reply} {result : α} :
    Yields (.ask request resume) dialogue result ↔
      ∃ answer rest, dialogue = ⟨request, answer⟩ :: rest ∧ Yields (resume answer) rest result := by
  constructor
  · intro yields
    cases yields with
    | ask answer rest => exact ⟨answer, _, rfl, rest⟩
  · rintro ⟨answer, rest, rfl, yields⟩
    exact .ask answer yields

theorem yields_question_iff {request : Request} {dialogue : List Reply}
    {found : request.Answer} :
    Yields (question request) dialogue found ↔ dialogue = [⟨request, found⟩] := by
  rw [question, yields_ask_iff]
  constructor
  · rintro ⟨answer, rest, rfl, yields⟩
    rcases yields_done_iff.mp yields with ⟨rfl, rfl⟩
    rfl
  · rintro rfl
    exact ⟨found, [], rfl, .done found⟩

/-- A job in two parts goes through the dialogue of the first and then that of the second. -/
theorem yields_andThen_iff {job : Job α} {next : α → Job β} {dialogue : List Reply}
    {result : β} :
    Yields (job.andThen next) dialogue result ↔
      ∃ first middle second, dialogue = first ++ second ∧ Yields job first middle ∧
        Yields (next middle) second result := by
  induction job generalizing dialogue with
  | done middle =>
      constructor
      · intro yields
        exact ⟨[], middle, dialogue, rfl, .done middle, yields⟩
      · rintro ⟨first, found, second, rfl, yields, rest⟩
        rcases yields_done_iff.mp yields with ⟨rfl, rfl⟩
        exact rest
  | ask request resume inductionHypothesis =>
      rw [andThen, yields_ask_iff]
      constructor
      · rintro ⟨answer, rest, rfl, yields⟩
        obtain ⟨first, middle, second, rfl, earlier, later⟩ :=
          (inductionHypothesis answer).mp yields
        exact ⟨⟨request, answer⟩ :: first, middle, second, rfl, .ask answer earlier, later⟩
      · rintro ⟨first, middle, second, rfl, yields, later⟩
        rcases yields_ask_iff.mp yields with ⟨answer, rest, rfl, earlier⟩
        exact ⟨answer, rest ++ second, rfl,
          (inductionHypothesis answer).mpr ⟨rest, middle, second, rfl, earlier, later⟩⟩

theorem yields_bind_iff {job : Job α} {next : α → Job β} {dialogue : List Reply} {result : β} :
    Yields (job >>= next) dialogue result ↔
      ∃ first middle second, dialogue = first ++ second ∧ Yields job first middle ∧
        Yields (next middle) second result :=
  yields_andThen_iff

theorem yields_pure_iff {result found : α} {dialogue : List Reply} :
    Yields (pure result) dialogue found ↔ dialogue = [] ∧ found = result :=
  yields_done_iff

theorem yields_map_iff {job : Job α} {change : α → β} {dialogue : List Reply} {result : β} :
    Yields (change <$> job) dialogue result ↔
      ∃ middle, Yields job dialogue middle ∧ result = change middle := by
  rw [map_eq_pure_bind, yields_bind_iff]
  constructor
  · rintro ⟨first, middle, second, rfl, yields, rest⟩
    rcases yields_pure_iff.mp rest with ⟨rfl, rfl⟩
    exact ⟨middle, by simpa using yields, rfl⟩
  · rintro ⟨middle, yields, rfl⟩
    exact ⟨dialogue, middle, [], by simp, yields, .done _⟩

/-- Where dialogues give the same answers to the same questions, a job yields one result along one
dialogue. -/
theorem Yields.unique_of_agree {job : Job α} {first second : List Reply} {left right : α}
    (leftYields : Yields job first left) (rightYields : Yields job second right)
    (agree : ∀ asked ∈ first, ∀ other ∈ second, other.request = asked.request → other = asked) :
    first = second ∧ left = right := by
  induction leftYields generalizing second with
  | done result =>
      rcases yields_done_iff.mp rightYields with ⟨rfl, rfl⟩
      exact ⟨rfl, rfl⟩
  | @ask request resume dialogue result answer rest inductionHypothesis =>
      rcases yields_ask_iff.mp rightYields with ⟨other, later, rfl, otherRest⟩
      cases agree _ List.mem_cons_self _ List.mem_cons_self rfl
      obtain ⟨rfl, rfl⟩ := inductionHypothesis otherRest fun asked member found inside =>
        agree asked (List.mem_cons_of_mem _ member) found (List.mem_cons_of_mem _ inside)
      exact ⟨rfl, rfl⟩

/-- Where the answer to a question follows from the question, a job yields one result along
one dialogue. -/
theorem Yields.unique (reply : (request : Request) → request.Answer) {job : Job α}
    {first second : List Reply} {left right : α} (leftYields : Yields job first left)
    (rightYields : Yields job second right)
    (leftFixed : ∀ asked ∈ first, asked.answer = reply asked.request)
    (rightFixed : ∀ asked ∈ second, asked.answer = reply asked.request) :
    first = second ∧ left = right := by
  refine leftYields.unique_of_agree rightYields fun asked member other inside same => ?_
  have answer := leftFixed asked member
  have otherAnswer := rightFixed other inside
  rcases asked with ⟨request, given⟩
  rcases other with ⟨otherRequest, otherGiven⟩
  simp only at same answer otherAnswer
  subst same answer otherAnswer
  rfl

end Job

/-- A world answers as a dialogue says, and is another one afterwards. -/
def Plays {ω : Type} (answer : (request : Request) → ω → request.Answer × ω) :
    ω → List Reply → ω → Prop
  | world, [], final => world = final
  | world, reply :: rest, final =>
      (answer reply.request world).1 = reply.answer ∧
        Plays answer (answer reply.request world).2 rest final

/-! ## Marked dialogues -/

section Marked

variable {ι α ω : Type} [DecidableEq ι]

/-- What one asker said in a dialogue of several. -/
def spokenBy (asker : ι) (history : List (ι × Reply)) : List Reply :=
  (history.filter fun spoken => spoken.1 = asker).map (·.2)

@[simp]
theorem spokenBy_nil (asker : ι) : spokenBy asker ([] : List (ι × Reply)) = [] :=
  rfl

@[simp]
theorem spokenBy_cons_self (asker : ι) (reply : Reply) (history : List (ι × Reply)) :
    spokenBy asker ((asker, reply) :: history) = reply :: spokenBy asker history := by
  simp [spokenBy]

theorem spokenBy_cons_other {asker other : ι} (distinct : other ≠ asker) (reply : Reply)
    (history : List (ι × Reply)) :
    spokenBy asker ((other, reply) :: history) = spokenBy asker history := by
  simp [spokenBy, distinct]

@[simp]
theorem spokenBy_append (asker : ι) (first second : List (ι × Reply)) :
    spokenBy asker (first ++ second) = spokenBy asker first ++ spokenBy asker second := by
  simp [spokenBy]

theorem spokenBy_eq_nil {asker : ι} {history : List (ι × Reply)}
    (silent : ∀ spoken ∈ history, spoken.1 ≠ asker) : spokenBy asker history = [] := by
  simpa [spokenBy] using silent

theorem mem_spokenBy_iff {asker : ι} {history : List (ι × Reply)} {reply : Reply} :
    reply ∈ spokenBy asker history ↔ (asker, reply) ∈ history := by
  simp [spokenBy]

end Marked

end SourceHarvest
