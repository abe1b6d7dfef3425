import SourceHarvest.Proofs.VectorStore.Rows

/-!
# Calls for different files commute

What is done to a table on behalf of one file and then of another comes to the same rows the other
way round, as long as no id belongs to both.  So two courses of events in which each file has the
same part lead to the same rows, however the parts are woven into each other.
-/

namespace SourceHarvest.RowTable

/-- Two tables hold the same rows, in any order. -/
def Alike (left right : RowTable) : Prop :=
  left.rows.Perm right.rows

namespace Alike

variable {left middle right : RowTable}

theorem refl (table : RowTable) : Alike table table :=
  List.Perm.refl _

theorem of_eq (same : left = right) : Alike left right :=
  same ▸ refl left

theorem symm (alike : Alike left right) : Alike right left :=
  List.Perm.symm alike

theorem trans (first : Alike left middle) (second : Alike middle right) : Alike left right :=
  List.Perm.trans first second

theorem put (alike : Alike left right) (row : StoredRow) : Alike (left.put row) (right.put row) :=
  (alike.filter _).cons row

theorem foldl_put (alike : Alike left right) (rows : List StoredRow) :
    Alike (rows.foldl RowTable.put left) (rows.foldl RowTable.put right) := by
  induction rows generalizing left right with
  | nil => exact alike
  | cons row rest inductionHypothesis => exact inductionHypothesis (alike.put row)

theorem apply (alike : Alike left right) (effect : StoreEffect) :
    Alike (left.apply effect) (right.apply effect) := by
  cases effect with
  | evicted relativePath => exact List.Perm.filter _ alike
  | stored chunks embeddings => exact alike.foldl_put (rowsOf chunks embeddings)

theorem applyAll (alike : Alike left right) (effects : List StoreEffect) :
    Alike (left.applyAll effects) (right.applyAll effects) := by
  induction effects generalizing left right with
  | nil => exact alike
  | cons effect rest inductionHypothesis => exact inductionHypothesis (alike.apply effect)

end Alike

/-! ## Two calls -/

theorem put_put {first second : StoredRow} (distinct : first.chunk.id ≠ second.chunk.id)
    (table : RowTable) :
    Alike ((table.put first).put second) ((table.put second).put first) := by
  have kept : (first.chunk.id != second.chunk.id) = true := bne_iff_ne.mpr distinct
  have otherKept : (second.chunk.id != first.chunk.id) = true := bne_iff_ne.mpr distinct.symm
  simp only [Alike, put, List.filter_cons, kept, otherKept, if_true, List.filter_filter]
  rw [List.filter_congr fun row _ => Bool.and_comm _ _]
  exact List.Perm.swap _ _ _

theorem deleteFile_put {row : StoredRow} {relativePath : String}
    (distinct : row.chunk.metadata.relativePath ≠ relativePath) (table : RowTable) :
    (table.put row).deleteFile relativePath = (table.deleteFile relativePath).put row := by
  have kept : (row.chunk.metadata.relativePath != relativePath) = true := bne_iff_ne.mpr distinct
  simp only [deleteFile, put, List.filter_cons, kept, if_true, List.filter_filter]
  rw [List.filter_congr fun row _ => Bool.and_comm _ _]

theorem deleteFile_deleteFile (first second : String) (table : RowTable) :
    (table.deleteFile first).deleteFile second = (table.deleteFile second).deleteFile first := by
  simp only [deleteFile, List.filter_filter]
  rw [List.filter_congr fun row _ => Bool.and_comm _ _]

theorem deleteFile_foldl_put {rows : List StoredRow} {relativePath : String}
    (distinct : ∀ row ∈ rows, row.chunk.metadata.relativePath ≠ relativePath) (table : RowTable) :
    (rows.foldl put table).deleteFile relativePath =
      rows.foldl put (table.deleteFile relativePath) := by
  induction rows generalizing table with
  | nil => rfl
  | cons row rest inductionHypothesis =>
      rw [List.foldl_cons, List.foldl_cons, ← deleteFile_put (distinct row List.mem_cons_self)]
      exact inductionHypothesis (fun other member => distinct other (List.mem_cons_of_mem _ member)) _

theorem put_foldl_put {row : StoredRow} {rows : List StoredRow}
    (distinct : ∀ other ∈ rows, row.chunk.id ≠ other.chunk.id) (table : RowTable) :
    Alike (rows.foldl put (table.put row)) ((rows.foldl put table).put row) := by
  induction rows generalizing table with
  | nil => exact .refl _
  | cons other rest inductionHypothesis =>
      have swapped := put_put (distinct other List.mem_cons_self) table
      exact (swapped.foldl_put rest).trans (inductionHypothesis
        (fun later member => distinct later (List.mem_cons_of_mem _ member)) _)

theorem foldl_put_foldl_put {first second : List StoredRow}
    (distinct : ∀ row ∈ first, ∀ other ∈ second, row.chunk.id ≠ other.chunk.id)
    (table : RowTable) :
    Alike (second.foldl put (first.foldl put table)) (first.foldl put (second.foldl put table)) := by
  induction first generalizing table with
  | nil => exact .refl _
  | cons row rest inductionHypothesis =>
      have later := inductionHypothesis
        (fun other member => distinct other (List.mem_cons_of_mem _ member)) (table.put row)
      exact later.trans ((put_foldl_put (distinct row List.mem_cons_self) table).foldl_put rest)

variable {owned : Chunk → Prop}

/-- What is done for two different files can be done in either order. -/
theorem apply_apply (separates : Separates owned) {path other : String} (distinct : path ≠ other)
    {first second : StoreEffect} (firstConcerns : first.Concerns owned path)
    (secondConcerns : second.Concerns owned other) (table : RowTable) :
    Alike ((table.apply first).apply second) ((table.apply second).apply first) := by
  cases first with
  | evicted evicted =>
      obtain rfl : evicted = path := firstConcerns
      cases second with
      | evicted otherEvicted => exact Alike.of_eq (deleteFile_deleteFile _ _ table)
      | stored chunks embeddings =>
          exact Alike.of_eq (deleteFile_foldl_put (fun row member =>
            (secondConcerns.row member).1 ▸ distinct.symm) table).symm
  | stored chunks embeddings =>
      cases second with
      | evicted evicted =>
          obtain rfl : evicted = other := secondConcerns
          exact Alike.of_eq (deleteFile_foldl_put (fun row member =>
            (firstConcerns.row member).1 ▸ distinct) table)
      | stored otherChunks otherEmbeddings =>
          refine foldl_put_foldl_put (fun row member held inside same => distinct ?_) table
          rcases firstConcerns.row member with ⟨place, rowOwned⟩
          rcases secondConcerns.row inside with ⟨otherPlace, heldOwned⟩
          rw [← place, ← otherPlace]
          exact separates rowOwned heldOwned same

/-! ## Whole courses of events -/

section History

variable {ι : Type} [DecidableEq ι] {place : ι → String}

/-- What was done for one asker can be done before all that was done for others. -/
theorem applyAll_before (separates : Separates owned) {asker : ι} {reply : Reply}
    (concerns : ∀ effect ∈ reply.effect?, effect.Concerns owned (place asker))
    {history : List (ι × Reply)} (minded : Minded owned place history)
    (apart : ∀ spoken ∈ history, place spoken.1 ≠ place asker) (table : RowTable) :
    Alike ((table.applyAll (effects (history.map (·.2)))).applyAll reply.effect?.toList)
      ((table.applyAll reply.effect?.toList).applyAll (effects (history.map (·.2)))) := by
  induction history generalizing table with
  | nil => exact .refl _
  | cons spoken rest inductionHypothesis =>
      have later := inductionHypothesis minded.tail
        (fun other member => apart other (List.mem_cons_of_mem _ member))
        (table.applyAll spoken.2.effect?.toList)
      have distinct := apart spoken List.mem_cons_self
      have spokenConcerns := minded.head
      rw [List.map_cons, effects_cons, applyAll_append, applyAll_append]
      refine later.trans (Alike.applyAll ?_ _)
      cases done : reply.effect? with
      | none => exact .refl _
      | some effect =>
          cases spokenDone : spoken.2.effect? with
          | none => exact .refl _
          | some spokenEffect =>
              exact apply_apply separates distinct (spokenConcerns _ spokenDone)
                (concerns _ done) table

/-- The first question of an asker stands somewhere, and nothing of that asker before it. -/
theorem exists_split_of_spokenBy {asker : ι} {reply : Reply} {rest : List Reply}
    {history : List (ι × Reply)} (part : spokenBy asker history = reply :: rest) :
    ∃ earlier later, history = earlier ++ (asker, reply) :: later ∧
      (∀ spoken ∈ earlier, spoken.1 ≠ asker) ∧ spokenBy asker later = rest := by
  induction history with
  | nil => cases part
  | cons spoken others inductionHypothesis =>
      rcases spoken with ⟨speaker, said⟩
      by_cases own : speaker = asker
      · subst own
        rw [spokenBy_cons_self] at part
        cases part
        exact ⟨[], others, rfl, fun _ impossible => (List.not_mem_nil impossible).elim, rfl⟩
      · rw [spokenBy_cons_other own] at part
        rcases inductionHypothesis part with ⟨earlier, later, rfl, free, behind⟩
        refine ⟨(speaker, said) :: earlier, later, rfl, ?_, behind⟩
        intro other member
        rcases List.mem_cons.mp member with rfl | inside
        · exact own
        · exact free other inside

/-- Two courses of events in which each asker has the same part lead to the same rows. -/
theorem applyAll_interleaving (separates : Separates owned) {first second : List (ι × Reply)}
    (parts : ∀ asker, spokenBy asker first = spokenBy asker second)
    (minded : Minded owned place first)
    (apart : ∀ spoken ∈ first, ∀ other ∈ first, other.1 ≠ spoken.1 →
      place other.1 ≠ place spoken.1)
    {left right : RowTable} (alike : Alike left right) :
    Alike (left.applyAll (effects (first.map (·.2))))
      (right.applyAll (effects (second.map (·.2)))) := by
  induction first generalizing second left right with
  | nil =>
      cases second with
      | nil => exact alike
      | cons spoken rest =>
          have part := parts spoken.1
          rw [spokenBy_nil, spokenBy_cons_self] at part
          cases part
  | cons spoken rest inductionHypothesis =>
      rcases spoken with ⟨asker, reply⟩
      have own := parts asker
      rw [spokenBy_cons_self] at own
      rcases exists_split_of_spokenBy own.symm with ⟨earlier, later, rfl, free, behind⟩
      have heard (other : ι × Reply) (member : other ∈ earlier) :
          other ∈ (asker, reply) :: rest := by
        have said : other.2 ∈ spokenBy other.1 (earlier ++ (asker, reply) :: later) :=
          mem_spokenBy_iff.mpr (List.mem_append_left _ member)
        rw [← parts] at said
        exact mem_spokenBy_iff.mp said
      have earlierMinded : Minded owned place earlier := by
        intro speaker effect done
        refine minded speaker effect ?_
        rw [parts, spokenBy_append, effects_append]
        exact List.mem_append_left _ done
      have remaining (other : ι) : spokenBy other rest = spokenBy other (earlier ++ later) := by
        have part := parts other
        by_cases same : asker = other
        · subst same
          rw [spokenBy_append, spokenBy_eq_nil free, List.nil_append, behind]
        · rwa [spokenBy_cons_other same, spokenBy_append, spokenBy_cons_other same,
            ← spokenBy_append] at part
      have moved := applyAll_before separates minded.head earlierMinded (fun other member =>
        apart _ List.mem_cons_self other (heard other member) (free other member)) right
      have further := inductionHypothesis remaining minded.tail
        (fun spoken member other inside => apart spoken (List.mem_cons_of_mem _ member) other
          (List.mem_cons_of_mem _ inside)) (alike.applyAll reply.effect?.toList)
      rw [List.map_cons, effects_cons, applyAll_append, List.map_append, List.map_cons,
        effects_append, effects_cons, applyAll_append, applyAll_append]
      rw [List.map_append, effects_append, applyAll_append] at further
      exact further.trans (moved.symm.applyAll _)

end History

end SourceHarvest.RowTable
