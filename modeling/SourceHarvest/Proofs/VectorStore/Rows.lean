import SourceHarvest.Proofs.Ingestion.Account
import SourceHarvest.Proofs.Ingestion.Chunking
import SourceHarvest.VectorStore.Memory

/-!
# What runs do to the rows of a store

A store keeps a table of rows: a call that succeeds does to the table what its name says, and
a call that fails does nothing.  Where an id tells which file a row is from, the calls made
for one file leave the rows of all other files alone, in whatever order calls come.
-/

namespace SourceHarvest

namespace RowTable

/-- The rows that chunks make with their vectors. -/
def rowsOf (chunks : List Chunk) (embeddings : List Embedding) : List StoredRow :=
  List.zipWith StoredRow.mk chunks embeddings

theorem map_chunk_rowsOf {chunks : List Chunk} {embeddings : List Embedding}
    (paired : embeddings.length = chunks.length) :
    (rowsOf chunks embeddings).map (·.chunk) = chunks := by
  rw [rowsOf, List.map_zipWith]
  induction chunks generalizing embeddings with
  | nil => rfl
  | cons chunk rest inductionHypothesis =>
      cases embeddings with
      | nil => cases paired
      | cons embedding others =>
          rw [List.zipWith_cons_cons, inductionHypothesis (Nat.succ.inj paired)]

theorem chunk_mem_of_mem_rowsOf {chunks : List Chunk} {embeddings : List Embedding}
    {row : StoredRow} (member : row ∈ rowsOf chunks embeddings) : row.chunk ∈ chunks := by
  rw [rowsOf, ← List.map_uncurry_zip_eq_zipWith] at member
  rcases List.mem_map.mp member with ⟨pair, inside, rfl⟩
  exact (List.of_mem_zip inside).1

theorem map_id_rowsOf {chunks : List Chunk} {embeddings : List Embedding}
    (paired : embeddings.length = chunks.length) :
    (rowsOf chunks embeddings).map (·.chunk.id) = chunks.map (·.id) := by
  have ids := congrArg (List.map Chunk.id) (map_chunk_rowsOf paired)
  rwa [List.map_map, Function.comp_def] at ids

/-- Chunks are stored row by row. -/
theorem upsert_eq (table : RowTable) (chunks : List Chunk) (embeddings : List Embedding) :
    table.upsert chunks embeddings = (rowsOf chunks embeddings).foldl put table :=
  rfl

/-- Rows with different ids that are put in stand in front of those whose ids they do not have. -/
theorem rows_foldl_put {rows : List StoredRow} (distinct : (rows.map (·.chunk.id)).Nodup)
    (table : RowTable) :
    (rows.foldl put table).rows = rows.reverse ++
      table.rows.filter fun held => held.chunk.id ∉ rows.map (·.chunk.id) := by
  induction rows generalizing table with
  | nil => simp
  | cons row rest inductionHypothesis =>
      rcases List.nodup_cons.mp distinct with ⟨fresh, restDistinct⟩
      rw [List.foldl_cons, inductionHypothesis restDistinct, put, List.filter_cons,
        if_pos (by simpa using fresh), List.filter_filter, List.reverse_cons, List.append_assoc]
      congr 2
      apply List.filter_congr
      intro held _
      rw [Bool.eq_iff_iff, List.map_cons, Bool.and_eq_true, bne_iff_ne, decide_eq_true_iff,
        decide_eq_true_iff, List.mem_cons, not_or, and_comm]

/-- Rows with different ids replace those with their ids, and stay apart from the others. -/
theorem rows_upsert {chunks : List Chunk} {embeddings : List Embedding}
    (paired : embeddings.length = chunks.length) (distinct : (chunks.map (·.id)).Nodup)
    (table : RowTable) :
    (table.upsert chunks embeddings).rows = (rowsOf chunks embeddings).reverse ++
      table.rows.filter fun held => held.chunk.id ∉ chunks.map (·.id) := by
  have ids := map_id_rowsOf paired
  rw [upsert_eq, rows_foldl_put (by rwa [ids]), ids]

/-- Do to a table what was done to a store. -/
def apply (table : RowTable) : StoreEffect → RowTable
  | .evicted relativePath => table.deleteFile relativePath
  | .stored chunks embeddings => table.upsert chunks embeddings

/-- Do to a table all that was done to a store. -/
def applyAll (table : RowTable) (effects : List StoreEffect) : RowTable :=
  effects.foldl apply table

@[simp]
theorem applyAll_nil (table : RowTable) : table.applyAll [] = table :=
  rfl

@[simp]
theorem applyAll_cons (table : RowTable) (effect : StoreEffect) (rest : List StoreEffect) :
    table.applyAll (effect :: rest) = (table.apply effect).applyAll rest :=
  rfl

theorem applyAll_append (table : RowTable) (first second : List StoreEffect) :
    table.applyAll (first ++ second) = (table.applyAll first).applyAll second :=
  List.foldl_append

end RowTable

/-- The rows of a store are a table: what succeeds is done to it, and what fails changes nothing. -/
structure Services.KeepsRows {σ : Type} (services : Services σ) (rows : σ → RowTable) : Prop where
  connect : ∀ remote, rows (services.connect remote).2 = rows remote
  embed : ∀ texts remote, rows (services.embed texts remote).2 = rows remote
  upsert : ∀ chunks embeddings remote, rows (services.upsert chunks embeddings remote).2 =
    if (services.upsert chunks embeddings remote).1.toBool
    then (rows remote).upsert chunks embeddings else rows remote
  deleteFile : ∀ relativePath remote, rows (services.deleteFile relativePath remote).2 =
    if (services.deleteFile relativePath remote).1.toBool
    then (rows remote).deleteFile relativePath else rows remote

namespace Services.KeepsRows

variable {σ : Type} {services : Services σ} {rows : σ → RowTable}

theorem rows_hears (keeps : services.KeepsRows rows) {remote next : σ} {reply : Reply}
    (hears : services.Hears remote reply next) :
    rows next = (rows remote).applyAll reply.effect?.toList := by
  rcases reply with ⟨request, answer⟩
  cases request with
  | modified | read | parse =>
      obtain rfl : next = remote := hears
      rfl
  | embed texts =>
      have kept := keeps.embed texts remote
      rw [show services.embed texts remote = (answer, next) from hears] at kept
      exact kept
  | evict relativePath =>
      have done := keeps.deleteFile relativePath remote
      rw [show services.deleteFile relativePath remote = (answer, next) from hears] at done
      rw [done]
      cases (answer : Except Failure Unit) <;> rfl
  | upsert chunks embeddings =>
      have done := keeps.upsert chunks embeddings remote
      rw [show services.upsert chunks embeddings remote = (answer, next) from hears] at done
      rw [done]
      cases (answer : Except Failure Unit) <;> rfl

/-- A store that does not refuse drops the rows under the relative path. -/
theorem rows_of_deleteFile (keeps : services.KeepsRows rows) {relativePath : String} {remote next : σ}
    (deleted : services.deleteFile relativePath remote = (.ok (), next)) :
    rows next = (rows remote).deleteFile relativePath := by
  have heard := keeps.deleteFile relativePath remote
  rw [deleted] at heard
  exact heard

/-- A dialogue does to the rows what its effects say. -/
theorem rows_hearsAll (keeps : services.KeepsRows rows) {remote final : σ} {dialogue : List Reply}
    (hears : services.HearsAll remote dialogue final) :
    rows final = (rows remote).applyAll (effects dialogue) := by
  induction dialogue generalizing remote with
  | nil =>
      obtain rfl : final = remote := hears
      rfl
  | cons reply rest inductionHypothesis =>
      rcases hears with ⟨next, here, later⟩
      rw [inductionHypothesis later, keeps.rows_hears here, effects_cons, RowTable.applyAll_append]

end Services.KeepsRows

/-! ## The rows of one file -/

/-- Among the chunks that are owned, an id tells the file. -/
def Separates (owned : Chunk → Prop) : Prop :=
  ∀ ⦃first second⦄, owned first → owned second → first.id = second.id →
    first.metadata.relativePath = second.metadata.relativePath

/-- The effect is on one file, and what it stores is owned. -/
def StoreEffect.Concerns (owned : Chunk → Prop) (relativePath : String) : StoreEffect → Prop
  | .evicted other => other = relativePath
  | .stored chunks _ => ∀ chunk ∈ chunks, chunk.metadata.relativePath = relativePath ∧ owned chunk

theorem StoreEffect.Concerns.row {owned : Chunk → Prop} {relativePath : String} {chunks : List Chunk}
    {embeddings : List Embedding}
    (concerns : (StoreEffect.stored chunks embeddings).Concerns owned relativePath) {row : StoredRow}
    (member : row ∈ RowTable.rowsOf chunks embeddings) :
    row.chunk.metadata.relativePath = relativePath ∧ owned row.chunk :=
  concerns row.chunk (RowTable.chunk_mem_of_mem_rowsOf member)

namespace RowTable

/-- All chunks of the table are owned. -/
def Owned (owned : Chunk → Prop) (table : RowTable) : Prop :=
  ∀ row ∈ table.rows, owned row.chunk

theorem Owned.deleteFile {owned : Chunk → Prop} {table : RowTable} (tableOwned : table.Owned owned)
    (relativePath : String) : (table.deleteFile relativePath).Owned owned :=
  fun row member => tableOwned row (List.mem_of_mem_filter member)

theorem ofFile_put (table : RowTable) (row : StoredRow) (relativePath : String) :
    (table.put row).ofFile relativePath =
      (if row.chunk.metadata.relativePath = relativePath then [row] else []) ++
        (table.ofFile relativePath).filter fun held => held.chunk.id != row.chunk.id := by
  simp only [ofFile, put, List.filter_cons, List.filter_filter, beq_iff_eq]
  split
  · simp only [List.singleton_append, Bool.and_comm]
  · simp only [List.nil_append, Bool.and_comm]

theorem ofFile_deleteFile (table : RowTable) (evicted relativePath : String) :
    (table.deleteFile evicted).ofFile relativePath =
      if evicted = relativePath then [] else table.ofFile relativePath := by
  split
  · rename_i same
    rw [same, ofFile_deleteFile_self]
  · rename_i distinct
    simp only [ofFile, deleteFile, List.filter_filter]
    apply List.filter_congr
    intro row _
    by_cases here : row.chunk.metadata.relativePath = relativePath
    · simp [here, Ne.symm distinct]
    · simp [here]

/-- What becomes of the rows of a file depends on the rows of that file only. -/
theorem ofFile_apply_congr {left right : RowTable} {relativePath : String}
    (same : left.ofFile relativePath = right.ofFile relativePath) (effect : StoreEffect) :
    (left.apply effect).ofFile relativePath = (right.apply effect).ofFile relativePath := by
  cases effect with
  | evicted other => simp only [apply, ofFile_deleteFile, same]
  | stored chunks embeddings =>
      simp only [apply, upsert_eq]
      generalize rowsOf chunks embeddings = rows
      induction rows generalizing left right with
      | nil => exact same
      | cons row rest inductionHypothesis =>
          exact inductionHypothesis (by rw [ofFile_put, ofFile_put, same])

theorem ofFile_applyAll_congr {left right : RowTable} {relativePath : String}
    (same : left.ofFile relativePath = right.ofFile relativePath) (effects : List StoreEffect) :
    (left.applyAll effects).ofFile relativePath = (right.applyAll effects).ofFile relativePath := by
  induction effects generalizing left right with
  | nil => exact same
  | cons effect rest inductionHypothesis =>
      exact inductionHypothesis (ofFile_apply_congr same effect)

variable {owned : Chunk → Prop}

theorem mem_put {table : RowTable} {row held : StoredRow} (member : held ∈ (table.put row).rows) :
    held = row ∨ held ∈ table.rows := by
  rcases List.mem_cons.mp member with here | later
  · exact .inl here
  · exact .inr (List.mem_of_mem_filter later)

theorem Owned.put {table : RowTable} (tableOwned : table.Owned owned) {row : StoredRow}
    (rowOwned : owned row.chunk) : (table.put row).Owned owned := by
  intro held member
  rcases mem_put member with rfl | old
  · exact rowOwned
  · exact tableOwned held old

theorem Owned.foldl_put {table : RowTable} (tableOwned : table.Owned owned) {rows : List StoredRow}
    (rowsOwned : ∀ row ∈ rows, owned row.chunk) : (rows.foldl RowTable.put table).Owned owned := by
  induction rows generalizing table with
  | nil => exact tableOwned
  | cons row rest inductionHypothesis =>
      exact inductionHypothesis (tableOwned.put (rowsOwned row List.mem_cons_self))
        fun held member => rowsOwned held (List.mem_cons_of_mem _ member)

theorem Owned.apply {table : RowTable} (tableOwned : table.Owned owned) {relativePath : String}
    {effect : StoreEffect} (concerns : effect.Concerns owned relativePath) :
    (table.apply effect).Owned owned := by
  cases effect with
  | evicted other => exact tableOwned.deleteFile other
  | stored chunks embeddings =>
      exact tableOwned.foldl_put fun row member => (concerns.row member).2

/-- Owned rows of other files replace no row of a file. -/
theorem ofFile_foldl_put_other (separates : Separates owned) {table : RowTable}
    (tableOwned : table.Owned owned) {relativePath : String} {rows : List StoredRow}
    (apart : ∀ row ∈ rows, row.chunk.metadata.relativePath ≠ relativePath ∧ owned row.chunk) :
    (rows.foldl put table).ofFile relativePath = table.ofFile relativePath := by
  induction rows generalizing table with
  | nil => rfl
  | cons row rest inductionHypothesis =>
      rcases apart row List.mem_cons_self with ⟨distinct, rowOwned⟩
      rw [List.foldl_cons, inductionHypothesis (tableOwned.put rowOwned)
        (fun held member => apart held (List.mem_cons_of_mem _ member)), ofFile_put, if_neg distinct,
        List.nil_append, List.filter_eq_self]
      intro held member
      rcases List.mem_filter.mp member with ⟨stored, here⟩
      rw [bne_iff_ne]
      intro same
      have place := separates (tableOwned held stored) rowOwned same
      exact distinct (place.symm.trans (beq_iff_eq.mp here))

/-- An effect on one file leaves the rows of the others alone. -/
theorem ofFile_apply_other (separates : Separates owned) {table : RowTable}
    (tableOwned : table.Owned owned) {relativePath other : String} (distinct : other ≠ relativePath)
    {effect : StoreEffect} (concerns : effect.Concerns owned other) :
    (table.apply effect).ofFile relativePath = table.ofFile relativePath := by
  cases effect with
  | evicted evicted =>
      obtain rfl : evicted = other := concerns
      rw [apply, ofFile_deleteFile, if_neg distinct]
  | stored chunks embeddings =>
      refine ofFile_foldl_put_other separates tableOwned fun row member => ?_
      obtain ⟨place, rowOwned⟩ := concerns.row member
      exact ⟨place ▸ distinct, rowOwned⟩

theorem ofFile_applyAll_toList_other (separates : Separates owned) {table : RowTable}
    (tableOwned : table.Owned owned) {relativePath other : String} (distinct : other ≠ relativePath)
    {effect? : Option StoreEffect} (concerns : ∀ effect ∈ effect?, effect.Concerns owned other) :
    (table.applyAll effect?.toList).ofFile relativePath = table.ofFile relativePath := by
  cases effect? with
  | none => rfl
  | some effect => exact ofFile_apply_other separates tableOwned distinct (concerns effect rfl)

section History

variable {ι : Type} [DecidableEq ι] {place : ι → String}

/-- Each asker had done to the store what is on its own file. -/
def Minded (owned : Chunk → Prop) (place : ι → String) (history : List (ι × Reply)) : Prop :=
  ∀ asker, ∀ effect ∈ effects (spokenBy asker history), effect.Concerns owned (place asker)

theorem Minded.head {spoken : ι × Reply} {rest : List (ι × Reply)}
    (minded : Minded owned place (spoken :: rest)) :
    ∀ effect ∈ spoken.2.effect?, effect.Concerns owned (place spoken.1) := by
  intro effect found
  refine minded spoken.1 effect (List.mem_filterMap.mpr ⟨spoken.2, ?_, found⟩)
  exact mem_spokenBy_iff.mpr List.mem_cons_self

theorem Minded.tail {spoken : ι × Reply} {rest : List (ι × Reply)}
    (minded : Minded owned place (spoken :: rest)) : Minded owned place rest := by
  intro asker effect found
  rcases List.mem_filterMap.mp found with ⟨reply, member, here⟩
  refine minded asker effect (List.mem_filterMap.mpr ⟨reply, ?_, here⟩)
  exact mem_spokenBy_iff.mpr (List.mem_cons_of_mem _ (mem_spokenBy_iff.mp member))

theorem Owned.applyAll_toList {table : RowTable} (tableOwned : table.Owned owned)
    {relativePath : String} {effect? : Option StoreEffect}
    (concerns : ∀ effect ∈ effect?, effect.Concerns owned relativePath) :
    (table.applyAll effect?.toList).Owned owned := by
  cases effect? with
  | none => exact tableOwned
  | some effect => exact tableOwned.apply (concerns effect rfl)

theorem Owned.applyAll_history {table : RowTable} (tableOwned : table.Owned owned)
    {history : List (ι × Reply)} (minded : Minded owned place history) :
    (table.applyAll (effects (history.map (·.2)))).Owned owned := by
  induction history generalizing table with
  | nil => exact tableOwned
  | cons spoken rest inductionHypothesis =>
      rw [List.map_cons, effects_cons, applyAll_append]
      exact inductionHypothesis (tableOwned.applyAll_toList minded.head) minded.tail

/-- The rows of a file are what was done to them on behalf of that file alone, whatever was
done in between on behalf of others. -/
theorem ofFile_applyAll_history (separates : Separates owned) {table : RowTable}
    (tableOwned : table.Owned owned) {history : List (ι × Reply)}
    (minded : Minded owned place history) {asker : ι}
    (apart : ∀ spoken ∈ history, spoken.1 ≠ asker → place spoken.1 ≠ place asker) :
    (table.applyAll (effects (history.map (·.2)))).ofFile (place asker) =
      (table.applyAll (effects (spokenBy asker history))).ofFile (place asker) := by
  induction history generalizing table with
  | nil => rfl
  | cons spoken rest inductionHypothesis =>
      rcases spoken with ⟨speaker, reply⟩
      have further := inductionHypothesis (tableOwned.applyAll_toList minded.head) minded.tail
        fun spoken member => apart spoken (List.mem_cons_of_mem _ member)
      rw [List.map_cons, effects_cons, applyAll_append, further]
      by_cases own : speaker = asker
      · subst own
        rw [spokenBy_cons_self, effects_cons, applyAll_append]
      · rw [spokenBy_cons_other own]
        apply ofFile_applyAll_congr
        exact ofFile_applyAll_toList_other separates tableOwned (apart _ List.mem_cons_self own)
          minded.head

/-- The rows of a file on whose behalf nothing was done stay as they are. -/
theorem ofFile_applyAll_outside (separates : Separates owned) {table : RowTable}
    (tableOwned : table.Owned owned) {history : List (ι × Reply)}
    (minded : Minded owned place history) {relativePath : String}
    (apart : ∀ spoken ∈ history, place spoken.1 ≠ relativePath) :
    (table.applyAll (effects (history.map (·.2)))).ofFile relativePath =
      table.ofFile relativePath := by
  induction history generalizing table with
  | nil => rfl
  | cons spoken rest inductionHypothesis =>
      rw [List.map_cons, effects_cons, applyAll_append, inductionHypothesis
        (tableOwned.applyAll_toList minded.head) minded.tail
        fun spoken member => apart spoken (List.mem_cons_of_mem _ member)]
      exact ofFile_applyAll_toList_other separates tableOwned (apart _ List.mem_cons_self)
        minded.head

end History

end RowTable

end SourceHarvest
