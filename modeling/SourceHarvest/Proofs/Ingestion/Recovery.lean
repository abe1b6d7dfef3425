import SourceHarvest.Proofs.Ingestion.TableServices

/-!
# Runs after the cache was lost

Without its fingerprint a file counts as new, so its old rows are not dropped before its new ones
are stored.  After such a run the store holds the new rows of the file and those old rows whose ids
are not among the new ones.
-/

namespace SourceHarvest

/-- The cache is lost: nothing is at its path, or a text that is no document of this version. -/
inductive Ledger.Lost (tree : FileTree) (cachePath : Path) : Prop where
  | removed {error : FileError} (absent : tree.find cachePath = .error error) : Lost tree cachePath
  | replaced {location : Location} {text : String} {time : Int}
      (found : tree.find cachePath = .ok (location, .file text.toUTF8 time))
      (foreign : ∀ read, (Json.Document.ofText? text).bind Ledger.ofDocument? = some read →
        read.1 ≠ Ledger.version) : Lost tree cachePath

/-- A cache that is lost is loaded as empty. -/
theorem Ledger.Lost.load_eq {tree : FileTree} {cachePath : Path} (lost : Lost tree cachePath) :
    load tree cachePath = .ok empty := by
  cases lost with
  | removed absent => exact load_of_absent absent
  | replaced found foreign =>
      rw [load_of_find found, decode_eq_empty foreign]

namespace Ingestion

open FileJob

variable {σ : Type}

/-- The worlds that runs which drop stale chunks, and any changes to the tree, make of a world with
an empty store and no cache. -/
inductive Reached (rows : σ → RowTable) (cachePath : Path) (met : Set (List UInt8)) :
    World σ → Prop where
  | start (world : World σ) (bare : rows world.remote = .empty)
      (fresh : Ledger.load world.tree cachePath = .ok .empty) : Reached rows cachePath met world
  | edit {world : World σ} (reached : Reached rows cachePath met world) (tree : FileTree) :
      Reached rows cachePath met { world with tree }
  | run {services : Services σ} {session : Session} {configuration : Configuration}
      {before after : World σ} (reached : Reached rows cachePath met before)
      (account : Account services session configuration before after)
      (keeps : services.KeepsRows rows) (sameCache : configuration.cachePath = cachePath)
      (evicting : configuration.evictStale = true) (meets : account.Meets met) :
      Reached rows cachePath met after

variable {rows : σ → RowTable} {cachePath : Path} {met : Set (List UInt8)}

/-- All rows that there ever are have ids that tell their files. -/
theorem Reached.owned {world : World σ} (distinct : NoCollision met)
    (reached : Reached rows cachePath met world) : (rows world.remote).Owned (Chunk.Coined met) := by
  induction reached with
  | start world bare =>
      intro row member
      rw [bare] at member
      cases member
  | edit _ _ inductionHypothesis => exact inductionHypothesis
  | run _ account keeps _ _ meets inductionHypothesis =>
      exact account.owned_after keeps distinct meets inductionHypothesis

/-- Rows in front of others hold all chunks exactly if there are no others. -/
theorem perm_map_chunk_append_iff {stored others : List StoredRow} {chunks : List Chunk}
    (paired : (stored.map (·.chunk)).Perm chunks) :
    ((stored ++ others).map (·.chunk)).Perm chunks ↔ others = [] := by
  constructor
  · intro whole
    have lengths := whole.length_eq
    have storedLengths := paired.length_eq
    simp only [List.length_map, List.length_append] at lengths storedLengths
    exact List.eq_nil_of_length_eq_zero (by omega)
  · rintro rfl
    rwa [List.append_nil]

variable {services : Services σ} {session : Session} {configuration : Configuration}
  {before after : World σ}

/-- The rows of a file without a fingerprint after it was processed: the new ones, and the old ones
that were not replaced. -/
theorem Account.ofFile_of_unknown (account : Account services session configuration before after)
    (keeps : services.KeepsRows rows) (distinct : NoCollision met) (meets : account.Meets met)
    (owned : (rows before.remote).Owned (Chunk.Coined met))
    (apart : (account.files.map (relativePath account.root)).Nodup) {path : Path}
    (member : path ∈ account.files) (unknown : account.ledger.has path = false) {count : Nat}
    (processed : (account.proceedings.report path).outcome = .processed count) :
    ∃ bounded embeddings, bounded? services configuration (account.proceedings.seen path)
        account.root path = some bounded ∧ embeddings.length = bounded.chunks.length ∧
      (rows after.remote).ofFile (relativePath account.root path) =
        (RowTable.rowsOf bounded.chunks embeddings).reverse ++
          ((rows before.remote).ofFile (relativePath account.root path)).filter
            fun row => row.chunk.id ∉ bounded.chunks.map (·.id) := by
  obtain ⟨bounded, embeddings, produced, paired, stored⟩ :=
    account.ofFile_of_processed keeps distinct meets owned apart member processed
  have fresh : evicts configuration account.ledger path = false := by
    rw [evicts, unknown, Bool.false_and]
  rw [fresh] at stored
  exact ⟨bounded, embeddings, produced, paired, stored⟩

/-- After the cache was lost, a run that processes a file leaves exactly the new chunks of the file
in the store if and only if no old row of the file has an id that is not among the new ones.  All
such old rows stay. -/
theorem rows_after_lost_cache (reached : Reached rows cachePath met before)
    (account : Account services session configuration before after)
    (lost : Ledger.Lost before.tree configuration.cachePath) (keeps : services.KeepsRows rows)
    (distinct : NoCollision met) (meets : account.Meets met)
    (apart : (account.files.map (relativePath account.root)).Nodup)
    (successful : ∀ path ∈ account.files, ∃ count,
      (account.proceedings.report path).outcome = .processed count) :
    ∀ path ∈ account.files, ∃ bounded, bounded? services configuration
        (account.proceedings.seen path) account.root path = some bounded ∧
      (∀ row ∈ (rows before.remote).ofFile (relativePath account.root path),
        row.chunk.id ∉ bounded.chunks.map (·.id) →
          row ∈ (rows after.remote).ofFile (relativePath account.root path)) ∧
      ((((rows after.remote).ofFile (relativePath account.root path)).map (·.chunk)).Perm
          bounded.chunks ↔
        ∀ row ∈ (rows before.remote).ofFile (relativePath account.root path),
          row.chunk.id ∈ bounded.chunks.map (·.id)) := by
  intro path member
  rcases successful path member with ⟨count, processed⟩
  have unknown : account.ledger.has path = false := by
    rw [Except.ok.inj (account.loaded.symm.trans lost.load_eq)]
    rfl
  obtain ⟨bounded, embeddings, produced, paired, stored⟩ := account.ofFile_of_unknown keeps distinct
    meets (reached.owned distinct) apart member unknown processed
  refine ⟨bounded, produced, ?_, ?_⟩
  · intro row old fresh
    rw [stored]
    exact List.mem_append_right _ (List.mem_filter.mpr ⟨old, by simpa using fresh⟩)
  · have whole : ((RowTable.rowsOf bounded.chunks embeddings).reverse.map (·.chunk)).Perm
        bounded.chunks := by
      rw [List.map_reverse, RowTable.map_chunk_rowsOf paired]
      exact List.reverse_perm _
    rw [stored, perm_map_chunk_append_iff whole, List.filter_eq_nil_iff]
    simp only [decide_eq_true_eq, not_not]

end Ingestion

/-! ## An old chunk that stays -/

namespace Small

open Ingestion

/-- After the file was indexed, its text was changed and the cache was lost. -/
def bereft : World RowTable :=
  { indexed with tree := tree [("A.java", "class B")] none }

theorem sound_bereft : bereft.tree.Sound :=
  sound_tree none (by decide) (by decide)

/-- The file was indexed once more. -/
def recovered : World RowTable :=
  ((run (services embed) (session []) configuration).run bereft).2

theorem run_bereft : (run (services embed) (session []) configuration).run bereft =
    (.ok ⟨1, 1, 0, 0, 1, 0, []⟩, recovered) := by
  rw [recovered]
  exact eq_mk_snd (by decide +kernel)

/-- A row of the file has an id that is not among those of its chunks now. -/
theorem stale_bereft : ∃ row ∈ bereft.remote.ofFile (FileJob.relativePath ⟨"/r"⟩ file),
    ∀ bounded ∈ FileJob.bounded? (services embed) configuration bereft.tree ⟨"/r"⟩ file,
      row.chunk.id ∉ bounded.chunks.map (·.id) := by
  decide +kernel

/-- The encodings of the file with its two texts. -/
def bothTexts : Set (List UInt8) :=
  {encoding | encoding ∈ encodings file "class A" ++ encodings file "class B"}

theorem reached_bereft : Reached id configuration.cachePath bothTexts bereft := by
  rcases exists_account_of_sound sound_fresh run_fresh with ⟨account, _⟩
  rcases files_eq account (by decide +kernel) (by decide +kernel) with ⟨root, files⟩
  have readable : fresh.tree.source? file = some "class A" := by decide +kernel
  have meets : account.Meets bothTexts :=
    meets_of_single account root files readable fun _ inside => List.mem_append_left _ inside
  exact .edit (.run (.start fresh rfl rfl) account (Services.keepsRows_ofTable _ _ _ _ _) rfl rfl
    meets) _

/-- After the cache was lost and the file was changed, a run that processes the file does not leave
exactly its chunks in the store. -/
theorem rows_after_lost_cache_bereft :
    ∃ account : Account (services embed) (session []) configuration bereft recovered,
      (∀ path ∈ account.files, ∃ count,
        (account.proceedings.report path).outcome = .processed count) ∧
      ∃ bounded, FileJob.bounded? (services embed) configuration bereft.tree ⟨"/r"⟩ file =
          some bounded ∧
        ¬ ((recovered.remote.ofFile (FileJob.relativePath ⟨"/r"⟩ file)).map (·.chunk)).Perm
          bounded.chunks := by
  rcases exists_account_of_sound sound_bereft run_bereft with ⟨account, summary⟩
  rcases files_eq account (by decide +kernel) (by decide +kernel) with ⟨root, files⟩
  have readable : bereft.tree.source? file = some "class B" := by decide +kernel
  have meets : account.Meets bothTexts :=
    meets_of_single account root files readable fun _ inside => List.mem_append_right _ inside
  have absent : bereft.tree.find configuration.cachePath = .error .notFound := by decide +kernel
  have successful : ∀ path ∈ account.files, ∃ count,
      (account.proceedings.report path).outcome = .processed count :=
    fun path member => account.processed_of_summary (by rw [summary, files]; rfl) member
  have member : file ∈ account.files := by
    rw [files]
    exact List.mem_singleton_self file
  obtain ⟨bounded, produced, _, exactly⟩ := rows_after_lost_cache reached_bereft account
    (.removed absent) (Services.keepsRows_ofTable _ _ _ _ _) (noCollision_of_nodup (by decide +kernel))
    meets (by rw [files]; exact List.nodup_singleton _) successful file member
  rw [account.seen_eq rfl member, root] at produced
  rw [root] at exactly
  rcases stale_bereft with ⟨row, stale, outside⟩
  exact ⟨account, successful, bounded, produced,
    fun whole => outside bounded produced (exactly.mp whole row stale)⟩

end Small

end SourceHarvest
