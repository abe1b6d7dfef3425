import SourceHarvest.Proofs.Ingestion.Readiness
import SourceHarvest.Proofs.Ingestion.Scheduling

/-!
# Files do not get in each other's way

What becomes of a file depends on that file, on its fingerprint and on what the services answer to
its own questions.  Two runs that agree on these come to the same for the file, whatever becomes of
all others, and no failure of a file ends a run.
-/

namespace SourceHarvest

/-- The question is for the grammars, for the vectors or for the store. -/
def Request.ForServices : Request → Prop
  | .modified _ | .read _ => False
  | _ => True

/-- Where the services were asked the same in two dialogues, they gave the same answer. -/
def Consonant (first second : List Reply) : Prop :=
  ∀ reply ∈ first, ∀ other ∈ second, reply.request.ForServices →
    other.request = reply.request → other = reply

namespace Ingestion

open FileJob

variable {σ τ : Type} {services : Services σ} {otherServices : Services τ}
  {session otherSession : Session} {configuration otherConfiguration : Configuration}
  {before after : World σ} {otherBefore otherAfter : World τ}

/-- Services whose answers do not depend on what they were asked before give the same answers in any
two runs. -/
theorem consonant_of_steady (steady : services.Steady)
    (first : Account services session configuration before after) {elsewhere afterwards : World σ}
    (second : Account services otherSession otherConfiguration elsewhere afterwards) {path : Path}
    (member : path ∈ first.files) (again : path ∈ second.files) :
    Consonant (first.proceedings.dialogue path) (second.proceedings.dialogue path) := by
  intro reply said other otherSaid forServices same
  have given := steady.given_of_hearsAll first.describe.hears before.remote reply
    (List.mem_map_of_mem (mem_spokenBy_iff.mp said))
  have otherGiven := steady.given_of_hearsAll second.describe.hears before.remote other
    (List.mem_map_of_mem (mem_spokenBy_iff.mp otherSaid))
  have grounded := first.describe.grounded path member reply said
  have otherGrounded := second.describe.grounded path again other otherSaid
  rcases reply with ⟨request, answer⟩
  rcases other with ⟨otherRequest, otherAnswer⟩
  simp only at same
  subst same
  cases otherRequest with
  | modified | read => exact forServices.elim
  | parse =>
      have answers : otherAnswer = answer := otherGrounded.trans grounded.symm
      rw [answers]
  | embed | evict | upsert =>
      have answers : otherAnswer = answer := otherGiven.trans given.symm
      rw [answers]

/-- The records of a file in a run. -/
def Account.recordsOf (account : Account services session configuration before after) (path : Path) :
    List OutcomeRecord :=
  (account.proceedings.records session).filter fun record => record.path = path.text

/-- A file has one record in a run, that of its report. -/
theorem Account.recordsOf_eq (account : Account services session configuration before after)
    {path : Path} (member : path ∈ account.files) :
    account.recordsOf path = [(account.proceedings.report path).record session] := by
  have order := account.describe.order
  have inside := order.mem_iff.mpr member
  have own : (account.proceedings.order.filter fun other =>
      ((account.proceedings.report other).record session).path = path.text) = [path] := by
    have named : (account.proceedings.order.filter fun other =>
        ((account.proceedings.report other).record session).path = path.text) =
        account.proceedings.order.filter (· = path) := by
      refine List.filter_congr fun other listed => ?_
      rcases path with ⟨text⟩
      rcases other with ⟨otherText⟩
      simp only [FileReport.record, account.describe.report_path (order.mem_iff.mp listed),
        Path.mk.injEq]
    rw [named, List.filter_eq, List.count_eq_one_of_mem (order.symm.nodup account.distinct) inside]
    rfl
  rw [recordsOf, Proceedings.records, Proceedings.reports, List.map_map, List.filter_map]
  exact congrArg (List.map _) own

/-- What two runs have in common that come to the same for a file. -/
structure SameFor (path : Path) (first : Account services session configuration before after)
    (second : Account otherServices otherSession configuration otherBefore otherAfter) : Prop where
  /-- The outcome, the fingerprint and the number of chunks that were dropped. -/
  report : second.proceedings.report path = first.proceedings.report path
  /-- All questions, so the calls to the store among them, with all answers. -/
  dialogue : second.proceedings.dialogue path = first.proceedings.dialogue path
  record : (second.recordsOf path).map OutcomeRecord.anonymous =
    (first.recordsOf path).map OutcomeRecord.anonymous
  fingerprint : second.finalLedger.get? path = first.finalLedger.get? path

section Two

variable (first : Account services session configuration before after)
  (second : Account otherServices otherSession otherConfiguration otherBefore otherAfter)
  {path : Path}

/-- The same work on a file goes the same way where it finds the same file and gets the same
answers. -/
theorem dialogue_eq_of_consonant
    (work : process otherConfiguration second.ledger second.root path =
      process configuration first.ledger first.root path)
    (member : path ∈ first.files) (again : path ∈ second.files)
    (modified : (second.proceedings.seen path).modified path =
      (first.proceedings.seen path).modified path)
    (read : (second.proceedings.seen path).read path = (first.proceedings.seen path).read path)
    (consonant : Consonant (first.proceedings.dialogue path) (second.proceedings.dialogue path)) :
    first.proceedings.dialogue path = second.proceedings.dialogue path ∧
      first.proceedings.report path = second.proceedings.report path := by
  have yields := first.describe.yields path member
  have otherYields := second.describe.yields path again
  rw [work] at otherYields
  refine yields.unique_of_agree otherYields fun asked said other otherSaid same => ?_
  have grounded := first.describe.grounded path member asked said
  have otherGrounded := second.describe.grounded path again other otherSaid
  have about := (asks_process configuration first.ledger first.root path).of_yields yields asked said
  rcases asked with ⟨request, answer⟩
  rcases other with ⟨otherRequest, otherAnswer⟩
  simp only at same
  subst same
  cases otherRequest with
  | modified asked =>
      obtain rfl : asked = path := about
      have answers : otherAnswer = answer := otherGrounded.trans (modified.trans grounded.symm)
      rw [answers]
  | read asked =>
      obtain rfl : asked = path := about
      have answers : otherAnswer = answer := otherGrounded.trans (read.trans grounded.symm)
      rw [answers]
  | parse | embed | evict | upsert => exact consonant _ said _ otherSaid trivial rfl

end Two

end Ingestion

namespace Small

open Ingestion

/-- The services of small trees refuse nothing. -/
theorem not_refused {session : Session} {settings : Configuration} {before after : World RowTable}
    (account : Account (services embed) session settings before after) {path : Path} {reply : Reply}
    (said : reply ∈ account.proceedings.dialogue path) : ¬ reply.Refused := by
  have given := (Services.steady_ofTable _ _ _ _ _).given_of_hearsAll account.describe.hears
    RowTable.empty reply (List.mem_map_of_mem (mem_spokenBy_iff.mp said))
  rcases reply with ⟨request, answer⟩
  cases request with
  | modified | read | parse => exact id
  | embed texts =>
      obtain rfl : answer = embed texts := given
      intro refused
      exact refused _ rfl (List.length_map _)
  | evict relativePath =>
      obtain rfl : answer = .ok () := given
      exact Bool.noConfusion
  | upsert chunks embeddings =>
      obtain rfl : answer = .ok () := given
      exact Bool.noConfusion

/-! ## A file beside one that cannot be read -/

/-- The second of two files holds no text. -/
def garbled : World RowTable :=
  { pair with
    tree :=
      { pair.tree with
        entries :=
          [ (["r"], .directory 5000),
            (["r", "A.java"], .file "class A".toUTF8 5000),
            (["r", "B.java"], .file ⟨#[255]⟩ 5000) ] } }

theorem sound_pairs : pair.tree.Sound ∧ garbled.tree.Sound :=
  ⟨sound_tree none (by decide) (by decide),
    ⟨by decide +kernel, by decide +kernel, FileTree.nested_of_entries (by decide +kernel),
      by decide +kernel⟩⟩

/-- A run finds both files, and no cache. -/
theorem found_garbled : resolveRoot configuration garbled.tree = .ok ⟨"/r"⟩ ∧
    (discovery (services embed) configuration).run garbled.tree ⟨"/r"⟩ = .ok [file, other] ∧
    Ledger.load garbled.tree configuration.cachePath = .ok .empty := by
  have rooted : garbled.tree.find ⟨"/r"⟩ = .ok (["r"], .directory 5000) := by decide +kernel
  exact ⟨by decide +kernel, Discovery.run_of_collect rooted (by decide +kernel) (by decide +kernel),
    by decide +kernel⟩

theorem ready_pairs : Ready (services embed) configuration pair ∧
    Ready (services embed) configuration garbled := by
  rcases found_pair with ⟨resolved, discovered, loaded⟩
  rcases found_garbled with ⟨resolvedThen, discoveredThen, loadedThen⟩
  exact ⟨⟨by decide, rfl, ⟨_, loaded⟩, ⟨_, _, resolved, discovered⟩, by decide +kernel⟩,
    ⟨by decide, rfl, ⟨_, loadedThen⟩, ⟨_, _, resolvedThen, discoveredThen⟩, by decide +kernel⟩⟩

end Small

end SourceHarvest
