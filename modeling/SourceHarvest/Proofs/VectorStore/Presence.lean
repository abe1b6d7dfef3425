import SourceHarvest.Proofs.VectorStore.Rows

/-!
# Which chunks are in a store

A chunk that was stored stays until it is struck: the rows of its relative path are dropped, or a
chunk with its id is stored.  Where each file has but chunks of its own stored, only what is done on
behalf of others strikes the chunks that a file had stored last.
-/

namespace SourceHarvest

variable {chunk : Chunk}

/-- The chunk is one of several, and none that comes after it has its id. -/
def Chunk.LastsAmong (chunk : Chunk) (chunks : List Chunk) : Prop :=
  ∃ later, chunk :: later <:+ chunks ∧ ∀ other ∈ later, other.id ≠ chunk.id

theorem Chunk.lastsAmong_cons {head : Chunk} {rest : List Chunk} :
    chunk.LastsAmong (head :: rest) ↔
      chunk.LastsAmong rest ∨ head = chunk ∧ ∀ other ∈ rest, other.id ≠ chunk.id := by
  simp only [LastsAmong, List.suffix_cons_iff, List.cons.injEq, or_and_right, exists_or]
  constructor
  · rintro (⟨later, ⟨rfl, rfl⟩, fresh⟩ | lasts)
    · exact .inr ⟨rfl, fresh⟩
    · exact .inl lasts
  · rintro (lasts | ⟨rfl, fresh⟩)
    · exact .inr lasts
    · exact .inl ⟨rest, ⟨rfl, rfl⟩, fresh⟩

/-- Among chunks with different ids each one lasts. -/
theorem Chunk.lastsAmong_of_nodup {chunks : List Chunk} (distinct : (chunks.map (·.id)).Nodup)
    (member : chunk ∈ chunks) : chunk.LastsAmong chunks := by
  rcases List.append_of_mem member with ⟨earlier, later, rfl⟩
  rw [List.map_append, List.map_cons] at distinct
  have fresh := (List.nodup_cons.mp distinct.of_append_right).1
  exact ⟨later, List.suffix_append _ _, fun other inside same =>
    fresh (List.mem_map.mpr ⟨other, inside, same⟩)⟩

namespace StoreEffect

/-- What was done makes a chunk go: the rows of its file are dropped, or its id is given to a chunk
that is stored. -/
def Strikes (chunk : Chunk) : StoreEffect → Prop
  | .evicted relativePath => relativePath = chunk.metadata.relativePath
  | .stored chunks _ => ∃ other ∈ chunks, other.id = chunk.id

/-- What was done leaves a chunk in the store, whether it was there or not. -/
def Lays (chunk : Chunk) : StoreEffect → Prop
  | .evicted _ => False
  | .stored chunks _ => chunk.LastsAmong chunks

/-- If chunks were stored, they are of a file, and each came with a vector. -/
def IsOf (path : Path) : StoreEffect → Prop
  | .evicted _ => True
  | .stored chunks embeddings =>
      embeddings.length = chunks.length ∧ ∀ chunk ∈ chunks, chunk.metadata.absolutePath = path

/-- No chunk of another file is laid. -/
theorem IsOf.not_lays {path : Path} {effect : StoreEffect} (isOf : effect.IsOf path)
    (foreign : chunk.metadata.absolutePath ≠ path) : ¬ effect.Lays chunk := by
  cases effect with
  | evicted relativePath => exact id
  | stored chunks embeddings =>
      rintro ⟨later, suffix, _⟩
      exact foreign (isOf.2 chunk (suffix.subset List.mem_cons_self))

end StoreEffect

namespace RowTable

/-- The table has a row of a chunk. -/
def Stores (table : RowTable) (chunk : Chunk) : Prop :=
  ∃ row ∈ table.rows, row.chunk = chunk

theorem stores_put {table : RowTable} {row : StoredRow} :
    (table.put row).Stores chunk ↔
      row.chunk = chunk ∨ table.Stores chunk ∧ row.chunk.id ≠ chunk.id := by
  constructor
  · rintro ⟨held, member, rfl⟩
    rcases List.mem_cons.mp member with rfl | old
    · exact .inl rfl
    · rcases List.mem_filter.mp old with ⟨stored, other⟩
      exact .inr ⟨⟨held, stored, rfl⟩, (bne_iff_ne.mp other).symm⟩
  · rintro (same | ⟨⟨held, stored, rfl⟩, other⟩)
    · exact ⟨row, List.mem_cons_self, same⟩
    · refine ⟨held, List.mem_cons_of_mem _ (List.mem_filter.mpr ⟨stored, ?_⟩), rfl⟩
      exact bne_iff_ne.mpr other.symm

theorem stores_deleteFile {table : RowTable} {relativePath : String} :
    (table.deleteFile relativePath).Stores chunk ↔
      table.Stores chunk ∧ relativePath ≠ chunk.metadata.relativePath := by
  constructor
  · rintro ⟨row, member, rfl⟩
    rcases List.mem_filter.mp member with ⟨stored, other⟩
    exact ⟨⟨row, stored, rfl⟩, (bne_iff_ne.mp other).symm⟩
  · rintro ⟨⟨row, stored, rfl⟩, other⟩
    exact ⟨row, List.mem_filter.mpr ⟨stored, bne_iff_ne.mpr other.symm⟩, rfl⟩

theorem stores_foldl_put {rows : List StoredRow} {table : RowTable} :
    (rows.foldl put table).Stores chunk ↔ chunk.LastsAmong (rows.map (·.chunk)) ∨
      table.Stores chunk ∧ ∀ other ∈ rows.map (·.chunk), other.id ≠ chunk.id := by
  induction rows generalizing table with
  | nil => simp [Chunk.LastsAmong]
  | cons row rest inductionHypothesis =>
      rw [List.foldl_cons, inductionHypothesis, stores_put, List.map_cons, Chunk.lastsAmong_cons,
        List.forall_mem_cons]
      tauto

/-- A chunk is in the store after a call if the call laid it, or if it was there and the call did
not strike it. -/
theorem stores_apply {table : RowTable} {path : Path} {effect : StoreEffect}
    (isOf : effect.IsOf path) : (table.apply effect).Stores chunk ↔
      effect.Lays chunk ∨ table.Stores chunk ∧ ¬ effect.Strikes chunk := by
  cases effect with
  | evicted relativePath => simp [apply, stores_deleteFile, StoreEffect.Lays, StoreEffect.Strikes]
  | stored chunks embeddings =>
      rw [apply, upsert_eq, stores_foldl_put, map_chunk_rowsOf isOf.1]
      simp [StoreEffect.Lays, StoreEffect.Strikes]

end RowTable

/-! ## Chunks of a file among those of others -/

/-- Each file had but chunks of its own stored. -/
def Candid (history : List (Path × Reply)) : Prop :=
  ∀ spoken ∈ history, ∀ effect ∈ spoken.2.effect?, effect.IsOf spoken.1

/-- Nothing was done for the file at the path. -/
def SilentOn (path : Path) (history : List (Path × Reply)) : Prop :=
  ∀ spoken ∈ history, spoken.1 = path → spoken.2.effect? = none

/-- Something that was done struck the chunk. -/
def StruckIn (history : List (Path × Reply)) (chunk : Chunk) : Prop :=
  ∃ spoken ∈ history, ∃ effect ∈ spoken.2.effect?, effect.Strikes chunk

/-- Something that was done struck the chunk after all that was done for the file at the path. -/
def CoveredIn (history : List (Path × Reply)) (path : Path) (chunk : Chunk) : Prop :=
  ∃ last, last <:+ history ∧ SilentOn path last ∧ StruckIn last chunk

variable {history : List (Path × Reply)} {path : Path}

theorem effects_spokenBy : effects (spokenBy path history) =
    history.filterMap fun spoken => if spoken.1 = path then spoken.2.effect? else none := by
  simp [effects, spokenBy, List.filterMap_map, List.filterMap_filter]

theorem silentOn_iff : SilentOn path history ↔ effects (spokenBy path history) = [] := by
  rw [effects_spokenBy, List.filterMap_eq_nil_iff]
  exact forall₂_congr fun spoken _ => ite_eq_right_iff.symm

/-- Where nothing was done for a file, each thing that was done came after all of that. -/
theorem coveredIn_iff_of_silent (silent : SilentOn path history) :
    CoveredIn history path chunk ↔ StruckIn history chunk := by
  constructor
  · rintro ⟨last, suffix, _, spoken, member, struck⟩
    exact ⟨spoken, suffix.subset member, struck⟩
  · exact fun struck => ⟨history, List.suffix_rfl, silent, struck⟩

/-- Where nothing was done for a file, its chunks are in the store as before, but for those that
were struck. -/
theorem stores_iff_of_silent (candid : Candid history) (own : chunk.metadata.absolutePath = path)
    (silent : SilentOn path history) {table : RowTable} :
    (table.applyAll (effects (history.map (·.2)))).Stores chunk ↔
      table.Stores chunk ∧ ¬ StruckIn history chunk := by
  induction history generalizing table with
  | nil => simp [StruckIn]
  | cons spoken rest inductionHypothesis =>
      rw [SilentOn, List.forall_mem_cons] at silent
      have later : Candid rest := fun other member => candid other (List.mem_cons_of_mem _ member)
      have struck : StruckIn (spoken :: rest) chunk ↔
          (∃ effect ∈ spoken.2.effect?, effect.Strikes chunk) ∨ StruckIn rest chunk := by
        simp only [StruckIn, List.exists_mem_cons_iff]
      rw [List.map_cons, effects_cons, RowTable.applyAll_append,
        inductionHypothesis later silent.2, struck, not_or, ← and_assoc]
      refine and_congr_left fun _ => ?_
      cases found : spoken.2.effect? with
      | none => simp
      | some effect =>
          have isOf := candid spoken List.mem_cons_self effect found
          have foreign : chunk.metadata.absolutePath ≠ spoken.1 := fun same => by
            have none := silent.1 (same.symm.trans own)
            rw [found] at none
            cases none
          simp only [Option.toList_some, RowTable.applyAll_cons, RowTable.applyAll_nil,
            RowTable.stores_apply isOf, or_iff_right (isOf.not_lays foreign)]
          simp

/-- The last thing that was done for a file stands somewhere in what was said. -/
theorem exists_last_effect {earlier : List StoreEffect} {effect : StoreEffect}
    (done : effects (spokenBy path history) = earlier ++ [effect]) :
    ∃ before spoken after, history = before ++ spoken :: after ∧ spoken.1 = path ∧
      spoken.2.effect? = some effect ∧ SilentOn path after := by
  rw [effects_spokenBy, List.filterMap_eq_append_iff] at done
  obtain ⟨first, second, rfl, _, last⟩ := done
  rw [List.filterMap_eq_cons_iff] at last
  obtain ⟨idle, spoken, after, rfl, _, found, none⟩ := last
  rw [Option.ite_none_right_eq_some] at found
  refine ⟨first ++ idle, spoken, after, (List.append_assoc ..).symm, found.1, found.2, ?_⟩
  rw [silentOn_iff, effects_spokenBy, none]

/-- A chunk that a file had stored in the end is in the store unless it gave way to another one of
the same file, or was struck after that. -/
theorem stores_iff_of_stored (candid : Candid history) {earlier : List StoreEffect}
    {chunks : List Chunk} {embeddings : List Embedding}
    (done : effects (spokenBy path history) = earlier ++ [.stored chunks embeddings])
    (inside : chunk ∈ chunks) {table : RowTable} :
    (table.applyAll (effects (history.map (·.2)))).Stores chunk ↔
      chunk.LastsAmong chunks ∧ ¬ CoveredIn history path chunk := by
  obtain ⟨before, own, after, rfl, rfl, found, silent⟩ := exists_last_effect done
  have isOf := candid own (List.mem_append_right _ List.mem_cons_self) _ found
  have later : Candid after := fun spoken member =>
    candid spoken (List.mem_append_right _ (List.mem_cons_of_mem _ member))
  have struck : (StoreEffect.stored chunks embeddings).Strikes chunk := ⟨chunk, inside, rfl⟩
  have covered : CoveredIn (before ++ own :: after) own.1 chunk ↔ StruckIn after chunk := by
    constructor
    · rintro ⟨last, suffix, none, spoken, member, hit⟩
      -- A part that does nothing for the file begins only after its chunks were stored.
      have unlike : own ∉ last := fun inner => by
        have impossible := none own inner rfl
        rw [found] at impossible
        cases impossible
      have rest : own :: after <:+ before ++ own :: after := List.suffix_append before _
      have further : last <:+ after := by
        rcases List.suffix_or_suffix_of_suffix suffix rest with inner | outer
        · rcases List.suffix_cons_iff.mp inner with rfl | inner
          · exact absurd List.mem_cons_self unlike
          · exact inner
        · exact absurd (outer.subset List.mem_cons_self) unlike
      exact ⟨spoken, further.subset member, hit⟩
    · intro hit
      exact ⟨after, (List.suffix_cons _ _).trans (List.suffix_append _ _), silent, hit⟩
  rw [List.map_append, effects_append, RowTable.applyAll_append, List.map_cons,
    effects_cons, found, Option.toList_some, RowTable.applyAll_append,
    stores_iff_of_silent later (isOf.2 chunk inside) silent, covered, RowTable.applyAll_cons,
    RowTable.applyAll_nil, RowTable.stores_apply isOf]
  refine and_congr_left fun _ => ?_
  simp only [struck, not_true_eq_false, and_false, or_false]
  rfl

end SourceHarvest
