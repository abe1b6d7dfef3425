import SourceHarvest.Proofs.Ingestion.Repetition

/-!
# Runs are idempotent

A run after a run over a tree that nobody touched does nothing but what failed before, and fails at
it again.  A second run that is forced builds the same rows and fingerprints once more.
-/

namespace SourceHarvest

namespace Ingestion

open FileJob

variable {σ : Type} {services nextServices : Services σ} {session nextSession : Session}
  {configuration : Configuration} {force : Bool} {before middle final : World σ}

/-- What a forced second run leaves as the first one left it.  Where the services answer as before, the
vectors are the same too. -/
structure Rebuilt (rows : σ → RowTable)
    (first : Account services session configuration before middle)
    (second : Account nextServices nextSession { configuration with force } middle final) : Prop where
  reports : ∀ path ∈ first.files, second.proceedings.report path = first.proceedings.report path
  chunks : ((rows final.remote).rows.map (·.chunk)).Perm ((rows middle.remote).rows.map (·.chunk))
  rows : (∀ path ∈ first.files,
      Consonant (first.proceedings.dialogue path) (second.proceedings.dialogue path)) →
    (rows final.remote).Alike (rows middle.remote)
  loaded : ∃ ledger, Ledger.load middle.tree configuration.cachePath = .ok ledger ∧
    Ledger.load final.tree configuration.cachePath = .ok ledger

/-- Vectors for the same texts are the same where the services answer as before. -/
theorem rowsOf_eq_of_consonant {first second : List Reply} (consonant : Consonant first second)
    {chunks : List Chunk} {embeddings others : List Embedding}
    (measured : chunks = [] ∨ ⟨.embed (chunks.map (·.content)), .ok embeddings⟩ ∈ first)
    (remeasured : chunks = [] ∨ ⟨.embed (chunks.map (·.content)), .ok others⟩ ∈ second) :
    RowTable.rowsOf chunks others = RowTable.rowsOf chunks embeddings := by
  rcases measured with rfl | said
  · rfl
  rcases remeasured with rfl | saidAgain
  · rfl
  · cases consonant _ said _ saidAgain trivial rfl
    rfl

namespace Follows

variable {first : Account services session configuration before middle}
  {second : Account nextServices nextSession { configuration with force } middle final}
  (follows : Follows first second) (forced : force = true)
  (all : ∀ path ∈ first.files, ∃ count,
    (first.proceedings.report path).outcome = .processed count)
  (grammar : ∀ path ∈ first.files, ∀ source,
    nextServices.parse path source = services.parse path source)
  (willing : ∀ path ∈ first.files, ∀ reply ∈ second.proceedings.dialogue path, ¬ reply.Refused)

section Chunks

variable {path : Path} (member : path ∈ first.files)

include follows member

theorem source?_eq :
    (second.proceedings.seen path).source? path = (first.proceedings.seen path).source? path :=
  FileTree.source?_congr (follows.modified_read_eq member).2

include grammar

/-- In both runs the same chunks come of a file. -/
theorem bounded?_eq :
    bounded? nextServices { configuration with force } (second.proceedings.seen path) second.root
        path =
      bounded? services configuration (first.proceedings.seen path) first.root path := by
  rw [bounded?, bounded?, follows.source?_eq member, follows.root]
  cases (first.proceedings.seen path).source? path with
  | none => rfl
  | some source =>
      simp only [Option.bind_eq_bind, Option.bind_some, grammar path member source]
      rfl

include forced all willing

/-- A forced run over willing services skips nothing, and nothing is in its way. -/
theorem exists_processed_again :
    ∃ count, (second.proceedings.report path).outcome = .processed count := by
  have again := follows.again member
  obtain ⟨count, processed⟩ := all path member
  obtain ⟨_, _, _, _, dated, _, produced, _⟩ := (first.course member).of_processed processed
  cases outcome : (second.proceedings.report path).outcome with
  | processed count => exact ⟨count, rfl⟩
  | skipped =>
      have unforced := ((second.course again).skipped_iff.mp outcome).1
      cases forced.symm.trans unforced
  | failed status message =>
      obtain ⟨_, _, _, obstacle, _⟩ := failure_of_yields (second.describe.yields path again)
        (second.describe.grounded path again) outcome
      cases obstacle with
      | undated undated =>
          rw [follows.millis?_eq member, dated] at undated
          cases undated
      | unproduced unproduced =>
          rw [follows.bounded?_eq grammar member, produced] at unproduced
          cases unproduced
      | refused reply said refused => exact absurd refused (willing path member reply said)

/-- A file that was processed is processed again, into the same chunks. -/
theorem processed_again :
    second.proceedings.report path = first.proceedings.report path ∧
    ∃ bounded, ∃ embeddings others : List Embedding,
      bounded? services configuration (first.proceedings.seen path) first.root path = some bounded ∧
      embeddings.length = bounded.chunks.length ∧ others.length = bounded.chunks.length ∧
      effects (first.proceedings.dialogue path) =
        replacement (evicts configuration first.ledger path) (relativePath first.root path)
          bounded.chunks embeddings ∧
      effects (second.proceedings.dialogue path) =
        replacement (evicts { configuration with force } second.ledger path)
          (relativePath first.root path) bounded.chunks others ∧
      (Consonant (first.proceedings.dialogue path) (second.proceedings.dialogue path) →
        RowTable.rowsOf bounded.chunks others = RowTable.rowsOf bounded.chunks embeddings) := by
  have again := follows.again member
  rcases all path member with ⟨count, processed⟩
  rcases stored_of_yields (first.describe.yields path member) (first.describe.grounded path member)
    processed with ⟨lastModified, source, bounded, embeddings, dated, readable, produced, paired, report,
      stored, measured⟩
  rcases follows.exists_processed_again forced all grammar willing member with ⟨recount, reprocessed⟩
  rcases stored_of_yields (second.describe.yields path again) (second.describe.grounded path again)
    reprocessed with ⟨time, text, chunks, others, redated, reread, reproduced, repaired, rereport,
      restored, remeasured⟩
  rw [follows.millis?_eq member, dated] at redated
  rw [follows.source?_eq member, readable] at reread
  rw [follows.bounded?_eq grammar member, produced] at reproduced
  cases redated
  cases reread
  cases reproduced
  rw [follows.root] at restored
  exact ⟨rereport.trans report.symm, bounded, embeddings, others, produced, paired, repaired, stored,
    restored, fun consonant => rowsOf_eq_of_consonant consonant measured remeasured⟩

end Chunks

include follows grammar in
/-- No ids are coined by the second run that the first one did not coin. -/
theorem meets_again {met : Set (List UInt8)} (meets : first.Meets met) : second.Meets met := by
  intro path again source parsed readable answered
  have member : path ∈ first.files := follows.files ▸ again
  rw [follows.source?_eq member] at readable
  rw [grammar path member source] at answered
  rw [follows.root]
  exact meets path member source parsed readable answered

include follows forced all grammar willing

theorem rebuilt_finalLedger : second.finalLedger = first.finalLedger := by
  apply ((Ledger.ordered_of_load second.loaded).absorbAll _).ext
    ((Ledger.ordered_of_load first.loaded).absorbAll _)
  intro path
  rw [← Account.finalLedger, ← Account.finalLedger, second.get?_finalLedger, follows.ledger_eq,
    first.get?_finalLedger, follows.files]
  split
  · rename_i member
    rw [(follows.processed_again forced all grammar willing member).1]
    cases (first.proceedings.report path).fingerprint <;> rfl
  · rfl

variable {rows : σ → RowTable} {met : Set (List UInt8)}

/-- The rows of a file are those of the same chunks after each of the runs. -/
theorem ofFile_rebuilt (keeps : services.KeepsRows rows) (nextKeeps : nextServices.KeepsRows rows)
    (distinct : NoCollision met) (meets : first.Meets met) (bare : rows before.remote = .empty)
    {path : Path} (member : path ∈ first.files) :
    ∃ (chunks : List Chunk) (embeddings others : List Embedding),
      embeddings.length = chunks.length ∧ others.length = chunks.length ∧
      (rows middle.remote).ofFile (relativePath first.root path) =
        (RowTable.rowsOf chunks embeddings).reverse ∧
      (rows final.remote).ofFile (relativePath first.root path) =
        (RowTable.rowsOf chunks others).reverse ∧
      (Consonant (first.proceedings.dialogue path) (second.proceedings.dialogue path) →
        RowTable.rowsOf chunks others = RowTable.rowsOf chunks embeddings) := by
  rcases follows.processed_again forced all grammar willing member with
    ⟨_, bounded, embeddings, others, produced, paired, repaired, stored, restored, same⟩
  rcases bounded?_spec distinct (meets path member) produced with ⟨own, different⟩
  have inPlace (chunk : Chunk) (inside : chunk ∈ bounded.chunks) := (own chunk inside).1
  have owned : (rows before.remote).Owned (Chunk.Coined met) := by
    rw [bare]
    exact fun _ impossible => by cases impossible
  have apart := first.apart_of_orderly follows.orderly
  have once := first.ofFile_after keeps distinct meets owned apart member
  rw [stored, ofFile_applyAll_replacement paired different inPlace, bare] at once
  have twice := second.ofFile_after nextKeeps distinct (follows.meets_again grammar meets)
    (first.owned_after keeps distinct meets owned) (by rwa [follows.files, follows.root])
    (follows.again member)
  rw [follows.root, restored, ofFile_applyAll_replacement repaired different inPlace] at twice
  have settled : (rows middle.remote).ofFile (relativePath first.root path) =
      (RowTable.rowsOf bounded.chunks embeddings).reverse := by
    rw [once]
    split <;> exact List.append_nil _
  refine ⟨bounded.chunks, embeddings, others, paired, repaired, settled, ?_, same⟩
  -- Whether or not the old rows were dropped, each has the id of a new one.
  have replaced : ((rows middle.remote).ofFile (relativePath first.root path)).filter
      (fun row => row.chunk.id ∉ bounded.chunks.map (·.id)) = [] := by
    rw [settled, List.filter_eq_nil_iff]
    intro row inside
    have chunk := RowTable.chunk_mem_of_mem_rowsOf (List.mem_reverse.mp inside)
    simpa using ⟨row.chunk, chunk, rfl⟩
  rw [twice, replaced]
  split <;> exact List.append_nil _

/-- A forced second run builds the same rows and fingerprints once more. -/
theorem rebuilt (keeps : services.KeepsRows rows) (nextKeeps : nextServices.KeepsRows rows)
    (distinct : NoCollision met) (meets : first.Meets met) (bare : rows before.remote = .empty) :
    Rebuilt rows first second := by
  have owned : (rows before.remote).Owned (Chunk.Coined met) := by
    rw [bare]
    exact fun _ impossible => by cases impossible
  have outside {other : String} (unlisted : ∀ path ∈ first.files, relativePath first.root path ≠ other) :
      (rows final.remote).ofFile other = (rows middle.remote).ofFile other :=
    second.ofFile_after_outside nextKeeps distinct (follows.meets_again grammar meets)
      (first.owned_after keeps distinct meets owned) (by rwa [follows.files, follows.root])
  have inside {path : Path} (member : path ∈ first.files) :=
    follows.ofFile_rebuilt forced all grammar willing keeps nextKeeps distinct meets bare member
  refine
    { reports := fun path member => (follows.processed_again forced all grammar willing member).1
      chunks := RowTable.perm_chunks_of_ofFile fun other => ?_
      rows := fun consonant => RowTable.alike_of_ofFile fun other => ?_
      loaded := follows.exists_loaded (follows.rebuilt_finalLedger forced all grammar willing) }
  · by_cases listed : ∃ path ∈ first.files, relativePath first.root path = other
    · rcases listed with ⟨path, member, rfl⟩
      rcases inside member with ⟨chunks, embeddings, others, paired, repaired, once, twice, _⟩
      rw [once, twice, List.map_reverse, List.map_reverse, RowTable.map_chunk_rowsOf paired,
        RowTable.map_chunk_rowsOf repaired]
    · rw [outside fun path member same => listed ⟨path, member, same⟩]
  · by_cases listed : ∃ path ∈ first.files, relativePath first.root path = other
    · rcases listed with ⟨path, member, rfl⟩
      rcases inside member with ⟨chunks, embeddings, others, _, _, once, twice, same⟩
      rw [once, twice, same (consonant path member)]
    · rw [outside fun path member same => listed ⟨path, member, same⟩]

end Follows

end Ingestion

/-! ## Two runs over one file -/

namespace Small

open Ingestion

theorem orderly_fresh : fresh.tree.Orderly ⟨"/r"⟩ where
  sound := sound_fresh
  forth := by decide +kernel
  unescaped := by
    unfold FileJob.Unescaped
    decide +kernel

/-- A second run finds the same file, and can save the cache. -/
theorem found_indexed : resolveRoot configuration indexed.tree = .ok ⟨"/r"⟩ ∧
    (discovery (services embed) configuration).run indexed.tree ⟨"/r"⟩ = .ok [file] ∧
    (Ledger.empty.save configuration.cachePath indexed.tree).1 = .ok () := by
  have rooted : indexed.tree.find ⟨"/r"⟩ = .ok (["r"], .directory 5000) := by decide +kernel
  exact ⟨by decide +kernel, Discovery.run_of_collect rooted (by decide +kernel) (by decide +kernel),
    by decide +kernel⟩

/-- A second run follows the run over one file, whether it is forced or not. -/
theorem follows_indexed {final : World RowTable} (force : Bool)
    (first : Account (services embed) (session []) configuration fresh indexed)
    (second : Account (services embed) (session []) { configuration with force } indexed final)
    (counted : first.Counted) : Follows first second := by
  rcases files_eq first (by decide +kernel) (by decide +kernel) with ⟨root, files⟩
  rcases root_files_eq second found_indexed.1 found_indexed.2.1 with ⟨again, found⟩
  exact
    { orderly := root ▸ orderly_fresh
      untaken := (apart_tree [("A.java", "class A")] none sound_fresh).keeps.hosts.toUntaken
      outside := by
        rw [root]
        exact .of_names temporaryPath_cache (cachePaths_plain [("A.java", "class A")] none)
      spares := fun _ _ _ => ⟨rfl, rfl⟩
      nextSpares := fun _ _ _ => ⟨rfl, rfl⟩
      root := again.trans root.symm
      files := found.trans files.symm
      counted := counted }

end Small

end SourceHarvest
