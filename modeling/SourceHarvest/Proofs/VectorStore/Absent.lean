import SourceHarvest.Proofs.VectorStore.Commuting

/-!
# Files without rows, and tables file by file

A file whose rows were dropped has none until its own chunks are stored again, and to drop the rows
of a file that has none changes nothing.  Two tables hold the same rows if they do so file by file.
-/

namespace SourceHarvest.RowTable

variable {table : RowTable} {relativePath : String}

/-- Dropping the rows of a file that has none changes nothing. -/
theorem deleteFile_eq_self (absent : table.ofFile relativePath = []) :
    table.deleteFile relativePath = table := by
  rw [deleteFile, List.filter_eq_self.mpr fun row member => ?_]
  have other := List.filter_eq_nil_iff.mp absent row member
  simpa using other

/-- Dropping rows of files that have none changes nothing. -/
theorem applyAll_eq_self {effects : List StoreEffect}
    (vain : ∀ effect ∈ effects, ∃ relativePath, effect = .evicted relativePath ∧
      table.ofFile relativePath = []) :
    table.applyAll effects = table := by
  induction effects with
  | nil => rfl
  | cons effect rest inductionHypothesis =>
      rcases vain effect List.mem_cons_self with ⟨relativePath, rfl, absent⟩
      rw [applyAll_cons, apply, deleteFile_eq_self absent]
      exact inductionHypothesis fun effect member => vain effect (List.mem_cons_of_mem _ member)

theorem ofFile_foldl_put_eq_nil (absent : table.ofFile relativePath = []) {rows : List StoredRow}
    (apart : ∀ row ∈ rows, row.chunk.metadata.relativePath ≠ relativePath) :
    (rows.foldl put table).ofFile relativePath = [] := by
  induction rows generalizing table with
  | nil => exact absent
  | cons row rest inductionHypothesis =>
      refine inductionHypothesis ?_ fun held member => apart held (List.mem_cons_of_mem _ member)
      rw [ofFile_put, absent, if_neg (apart row List.mem_cons_self)]
      rfl

/-- A file without rows gets none by what is done on behalf of another one. -/
theorem ofFile_apply_eq_nil {owned : Chunk → Prop} (absent : table.ofFile relativePath = [])
    {other : String} (distinct : other ≠ relativePath) {effect : StoreEffect}
    (concerns : effect.Concerns owned other) : (table.apply effect).ofFile relativePath = [] := by
  cases effect with
  | evicted evicted =>
      rw [apply, ofFile_deleteFile, absent]
      split <;> rfl
  | stored chunks embeddings =>
      exact ofFile_foldl_put_eq_nil absent fun row member => (concerns.row member).1 ▸ distinct

section History

variable {ι : Type} [DecidableEq ι] {owned : Chunk → Prop} {place : ι → String}

/-- A file for which nothing was done but to drop its rows has none in the end, if it had none or
they were dropped indeed. -/
theorem ofFile_applyAll_eq_nil {history : List (ι × Reply)} (minded : Minded owned place history)
    {asker : ι} (apart : ∀ spoken ∈ history, spoken.1 ≠ asker → place spoken.1 ≠ place asker)
    (dropped : ∀ effect ∈ effects (spokenBy asker history), effect = .evicted (place asker))
    (gone : table.ofFile (place asker) = [] ∨ effects (spokenBy asker history) ≠ []) :
    (table.applyAll (effects (history.map (·.2)))).ofFile (place asker) = [] := by
  induction history generalizing table with
  | nil => exact gone.resolve_right fun some => some rfl
  | cons spoken rest inductionHypothesis =>
      rcases spoken with ⟨speaker, reply⟩
      have others := fun spoken member => apart spoken (List.mem_cons_of_mem _ member)
      have concerns := minded.head
      rw [List.map_cons, effects_cons, applyAll_append]
      by_cases own : speaker = asker
      · subst own
        rw [spokenBy_cons_self, effects_cons] at dropped gone
        have later := fun effect member => dropped effect (List.mem_append_right _ member)
        cases found : reply.effect? with
        | none =>
            rw [found] at gone
            exact inductionHypothesis minded.tail others later gone
        | some effect =>
            obtain rfl := dropped effect (by simp [found])
            exact inductionHypothesis minded.tail others later
              (.inl (ofFile_deleteFile_self _ _))
      · rw [spokenBy_cons_other own] at dropped gone
        have distinct := apart _ List.mem_cons_self own
        cases found : reply.effect? with
        | none => exact inductionHypothesis minded.tail others dropped gone
        | some effect =>
            exact inductionHypothesis minded.tail others dropped (gone.imp_left fun absent =>
              ofFile_apply_eq_nil absent distinct (concerns effect found))

end History

/-! ## Tables file by file -/

/-- Lists with the same members under each key have the same members. -/
theorem perm_of_filter_perm {α κ : Type} [DecidableEq α] [DecidableEq κ] (key : α → κ)
    {left right : List α}
    (same : ∀ value, (left.filter (key · == value)).Perm (right.filter (key · == value))) :
    left.Perm right := by
  rw [List.perm_iff_count]
  intro item
  have count := List.perm_iff_count.mp (same (key item)) item
  rwa [List.count_filter (by simp), List.count_filter (by simp)] at count

/-- Tables with the same rows for each file have the same rows. -/
theorem alike_of_ofFile {left right : RowTable}
    (same : ∀ relativePath, (left.ofFile relativePath).Perm (right.ofFile relativePath)) :
    left.Alike right :=
  perm_of_filter_perm (fun row : StoredRow => row.chunk.metadata.relativePath) same

/-- Tables with the same chunks for each file have the same chunks. -/
theorem perm_chunks_of_ofFile {left right : RowTable}
    (same : ∀ relativePath, ((left.ofFile relativePath).map (·.chunk)).Perm
      ((right.ofFile relativePath).map (·.chunk))) :
    (left.rows.map (·.chunk)).Perm (right.rows.map (·.chunk)) := by
  apply perm_of_filter_perm fun chunk : Chunk => chunk.metadata.relativePath
  intro relativePath
  rw [List.filter_map, List.filter_map]
  exact same relativePath

end SourceHarvest.RowTable
