import SourceHarvest.Proofs.Ingestion.Dialogue
import Mathlib.Data.List.Perm.Basic

/-!
# Jobs that take turns

Each job of a batch is named.  Whatever the schedule and the greatest number of jobs at a
time, a batch has a transcript: one dialogue of the world with all jobs, in which the part
of each job is a dialogue along which that job yields its result, and the results of the
batch are the results of its jobs in some order.
-/

namespace SourceHarvest.Batch

variable {ι α ω : Type} [DecidableEq ι]

/-- What was said while the named tasks of a batch were worked on, and how each ended. -/
structure Transcript (answer : (request : Request) → ω → request.Answer × ω)
    (tasks : List (ι × Job α)) (world : ω) (results : List α) (final : ω)
    (history : List (ι × Reply)) (outcome : ι → α) : Prop where
  /-- The world answered as the history says. -/
  plays : Plays answer world (history.map (·.2)) final
  /-- Nobody but the tasks spoke. -/
  marked : ∀ spoken ∈ history, spoken.1 ∈ tasks.map (·.1)
  /-- Each task ended along its own part of the history. -/
  yields : ∀ task ∈ tasks, task.2.Yields (spokenBy task.1 history) (outcome task.1)
  results : results.Perm (tasks.map fun task => outcome task.1)

variable {answer : (request : Request) → ω → request.Answer × ω}

/-- Tasks that come to nothing new may stand in any order. -/
theorem Transcript.of_perm {tasks others : List (ι × Job α)} {world final : ω} {results : List α}
    {history : List (ι × Reply)} {outcome : ι → α}
    (transcript : Transcript answer tasks world results final history outcome)
    (same : tasks.Perm others) :
    Transcript answer others world results final history outcome where
  plays := transcript.plays
  marked spoken member := (same.map _).mem_iff.mp (transcript.marked spoken member)
  yields task member := transcript.yields task (same.mem_iff.mpr member)
  results := transcript.results.trans (same.map _)

/-- A task that is done adds its result and says nothing. -/
theorem Transcript.add_done {name : ι} {result : α} {tasks : List (ι × Job α)} {world final : ω}
    {results : List α} {history : List (ι × Reply)} {outcome : ι → α}
    (transcript : Transcript answer tasks world results final history outcome)
    (fresh : name ∉ tasks.map (·.1)) :
    Transcript answer ((name, .done result) :: tasks) world (result :: results) final history
      (Function.update outcome name result) where
  plays := transcript.plays
  marked spoken member := List.mem_cons_of_mem _ (transcript.marked spoken member)
  yields task member := by
    rcases List.mem_cons.mp member with rfl | member
    · have silent : spokenBy name history = [] := spokenBy_eq_nil fun spoken inside same =>
        fresh (same ▸ transcript.marked spoken inside)
      simp only [silent, Function.update_self]
      exact .done result
    · have distinct : task.1 ≠ name := fun same =>
        fresh (same ▸ List.mem_map_of_mem member)
      rw [Function.update_of_ne distinct]
      exact transcript.yields task member
  results := by
    have kept : tasks.map (fun task => Function.update outcome name result task.1) =
        tasks.map fun task => outcome task.1 := by
      apply List.map_congr_left
      intro task member
      have distinct : task.1 ≠ name := fun same =>
        fresh (same ▸ List.mem_map_of_mem member)
      exact Function.update_of_ne distinct result outcome
    rw [List.map_cons, Function.update_self, kept]
    exact transcript.results.cons result

/-- A task that asks a question goes on with the answer. -/
theorem Transcript.add_reply {name : ι} {request : Request} {resume : request.Answer → Job α}
    {tasks : List (ι × Job α)} {world final : ω} {results : List α} {history : List (ι × Reply)}
    {outcome : ι → α} (fresh : name ∉ tasks.map (·.1))
    (transcript : Transcript answer ((name, resume (answer request world).1) :: tasks)
      (answer request world).2 results final history outcome) :
    Transcript answer ((name, .ask request resume) :: tasks) world results final
      ((name, ⟨request, (answer request world).1⟩) :: history) outcome where
  plays := ⟨rfl, transcript.plays⟩
  marked spoken member := by
    rcases List.mem_cons.mp member with rfl | member
    · exact List.mem_cons_self
    · exact transcript.marked spoken member
  yields task member := by
    rcases List.mem_cons.mp member with rfl | member
    · rw [spokenBy_cons_self]
      exact .ask _ (transcript.yields _ List.mem_cons_self)
    · have distinct : name ≠ task.1 := fun same =>
        fresh (same ▸ List.mem_map_of_mem member)
      rw [spokenBy_cons_other distinct]
      exact transcript.yields task (List.mem_cons_of_mem _ member)
  results := transcript.results

/-- A task that runs to its end in one go comes before the others. -/
theorem Transcript.add_run {name : ι} {job : Job α} {tasks : List (ι × Job α)} {world final : ω}
    {results : List α} {history : List (ι × Reply)} {outcome : ι → α}
    (fresh : name ∉ tasks.map (·.1))
    (transcript : Transcript answer tasks (job.run answer world).2 results final history outcome) :
    ∃ whole outcomes, Transcript answer ((name, job) :: tasks) world
      ((job.run answer world).1 :: results) final whole outcomes := by
  induction job generalizing world with
  | done result => exact ⟨history, _, transcript.add_done fresh⟩
  | ask request resume inductionHypothesis =>
      rcases inductionHypothesis (answer request world).1 transcript with ⟨whole, outcomes, rest⟩
      exact ⟨_, outcomes, Transcript.add_reply fresh rest⟩

omit [DecidableEq ι] in
/-- Filling up a batch leaves its jobs and their order as they are. -/
theorem fill_tasks (limit : Nat) (running waiting : List (ι × Job α)) (finished : List α) :
    ∃ started delayed : List (ι × Job α), started ++ delayed = running ++ waiting ∧
      fill limit ⟨running.map (·.2), waiting.map (·.2), finished⟩ =
        ⟨started.map (·.2), delayed.map (·.2), finished⟩ := by
  refine ⟨running ++ waiting.take (limit - running.length),
    waiting.drop (limit - running.length), ?_, ?_⟩
  · rw [List.append_assoc, List.take_append_drop]
  · simp [fill, List.map_take, List.map_drop]

variable [Nonempty α] (answer)

/-- Jobs that run one after the other have a transcript. -/
theorem exists_transcript_finish (tasks : List (ι × Job α)) (world : ω)
    (distinct : (tasks.map (·.1)).Nodup) :
    ∃ history outcome, Transcript answer tasks world
      (finish answer (tasks.map (·.2)) world).1 (finish answer (tasks.map (·.2)) world).2
      history outcome := by
  induction tasks generalizing world with
  | nil =>
      exact ⟨[], fun _ => Classical.ofNonempty, rfl, by simp, by simp, by simp [finish]⟩
  | cons task rest inductionHypothesis =>
      rcases List.nodup_cons.mp distinct with ⟨fresh, restDistinct⟩
      obtain ⟨history, outcome, transcript⟩ :=
        inductionHypothesis (task.2.run answer world).2 restDistinct
      exact Transcript.add_run fresh transcript

/-- Jobs that take turns by a schedule have a transcript. -/
theorem exists_transcript_runBy (limit : Nat) (schedule : List Nat)
    (running waiting : List (ι × Job α)) (finished : List α) (world : ω)
    (distinct : ((running ++ waiting).map (·.1)).Nodup) :
    ∃ results final, runBy answer limit schedule
        ⟨running.map (·.2), waiting.map (·.2), finished⟩ world =
          (finished.reverse ++ results, final) ∧
      ∃ history outcome,
        Transcript answer (running ++ waiting) world results final history outcome := by
  induction schedule generalizing running waiting finished world with
  | nil =>
      have transcript := exists_transcript_finish answer (running ++ waiting) world distinct
      refine ⟨_, _, ?_, transcript⟩
      simp [runBy]
  | cons pick schedule inductionHypothesis =>
      simp only [runBy, turn, List.length_map, List.getElem?_map]
      generalize pick % running.length = place
      cases found : running[place]? with
      | none => exact inductionHypothesis running waiting finished world distinct
      | some task =>
          -- Bring the task whose turn it is to the front; order does not matter to transcripts.
          rcases task with ⟨name, job⟩
          obtain ⟨before, after, rfl, rfl⟩ : ∃ before after,
              running = before ++ (name, job) :: after ∧ before.length = place := by
            rcases List.getElem?_eq_some_iff.mp found with ⟨within, here⟩
            exact ⟨running.take place, running.drop (place + 1),
              by rw [← here, ← List.drop_eq_getElem_cons within, List.take_append_drop],
              List.length_take_of_le (Nat.le_of_lt within)⟩
          have front (job : Job α) : ((name, job) :: (before ++ after ++ waiting)).Perm
              (before ++ (name, job) :: after ++ waiting) := by
            simpa using List.perm_middle.symm
          obtain ⟨fresh, restDistinct⟩ :=
            List.nodup_cons.mp (((front job).map (·.1)).nodup_iff.mpr distinct)
          cases job with
          | done result =>
              obtain ⟨started, delayed, same, filled⟩ :=
                fill_tasks limit (before ++ after) waiting (result :: finished)
              obtain ⟨results, final, ran, history, outcome, transcript⟩ :=
                inductionHypothesis started delayed (result :: finished) world (same ▸ restDistinct)
              refine ⟨result :: results, final, ?_, history, _,
                ((same ▸ transcript).add_done fresh).of_perm (front _)⟩
              simp only [Option.map_some, List.map_append, List.map_cons] at filled ⊢
              rw [List.eraseIdx_append_of_length_le (by simp)]
              simp only [List.length_map, Nat.sub_self, List.eraseIdx_cons_zero]
              rw [filled, ran]
              simp
          | ask request resume =>
              obtain ⟨results, final, ran, history, outcome, transcript⟩ :=
                inductionHypothesis (before ++ (name, resume (answer request world).1) :: after)
                  waiting finished (answer request world).2
                  (by simpa using distinct)
              refine ⟨results, final, ?_, _, outcome,
                (Transcript.add_reply fresh (transcript.of_perm (front _).symm)).of_perm (front _)⟩
              simp only [Option.map_some, List.map_append, List.map_cons] at ran ⊢
              rw [List.set_append_right _ _ (by simp)]
              simpa using ran

/-- However its jobs take turns, a batch has a transcript. -/
theorem exists_transcript_run (limit : Nat) (schedule : List Nat) (tasks : List (ι × Job α))
    (world : ω) (distinct : (tasks.map (·.1)).Nodup) :
    ∃ history outcome, Transcript answer tasks world
      (run answer limit schedule (tasks.map (·.2)) world).1
      (run answer limit schedule (tasks.map (·.2)) world).2 history outcome := by
  rcases fill_tasks limit [] tasks [] with ⟨started, delayed, same, filled⟩
  obtain ⟨results, final, ran, history, outcome, transcript⟩ :=
    exists_transcript_runBy answer limit schedule started delayed [] world
      (by simpa [same] using distinct)
  have whole : run answer limit schedule (tasks.map (·.2)) world = (results, final) := by
    simpa only [run, ofJobs, filled, List.map_nil, List.reverse_nil, List.nil_append] using
      filled ▸ ran
  rw [whole]
  exact ⟨history, outcome, by simpa [same] using transcript⟩

end SourceHarvest.Batch
