import SourceHarvest.Proofs.Ingestion.History
import SourceHarvest.Proofs.Ingestion.Isolation
import SourceHarvest.Proofs.FileTree.Retaining
import SourceHarvest.Proofs.VectorStore.Presence

/-!
# Several roots in one store

Fingerprints are kept by the whole paths of files, rows by their paths relative to the root of the
run.  So files of different roots can have the same rows to their names.  A chunk that was stored for
one file is lost where another file covers it: one with the same relative path under its own root
that drops the rows under this path, or one that has a chunk with the same id.  Nothing else makes a
chunk go, but a later chunk of its own file with the same id.
-/

namespace SourceHarvest

/-- Where there are chunks, they are stored in the end. -/
theorem FileJob.replacement_of_mem {chunks : List Chunk} {chunk : Chunk} (inside : chunk ∈ chunks)
    (needed : Bool) (relativePath : String) (embeddings : List Embedding) :
    replacement needed relativePath chunks embeddings =
      (if needed then [.evicted relativePath] else []) ++ [.stored chunks embeddings] := by
  cases chunks with
  | nil => cases inside
  | cons => rfl

namespace Ingestion

open FileJob

variable {σ : Type} {services : Services σ} {session : Session} {configuration : Configuration}
  {before after : World σ}

namespace Account

variable (account : Account services session configuration before after)

/-- The run processed a file. -/
def Processes (path : Path) : Prop :=
  path ∈ account.files ∧ ∃ count, (account.proceedings.report path).outcome = .processed count

/-- No call of the run was refused. -/
def Unrefused : Prop :=
  ∀ path ∈ account.files, ∀ reply ∈ account.proceedings.dialogue path, ¬ reply.Refused

/-- The chunks that come of a file as the run saw it. -/
def chunksOf (path : Path) : List Chunk :=
  ((bounded? services configuration (account.proceedings.seen path) account.root path).map
    (·.chunks)).getD []

/-- Another file made a chunk go, after all that was done for the file at the path. -/
def Covers (path : Path) (chunk : Chunk) : Prop :=
  CoveredIn account.proceedings.history path chunk

/-- Which chunks are gone after the run, of those that their files were last processed into. -/
def covered (known : Path → Chunk → Prop) (path : Path) (chunk : Chunk) : Prop :=
  account.Covers path chunk ∨
    (account.Processes path ∧ ¬ chunk.LastsAmong (account.chunksOf path)) ∨
    (¬ account.Processes path ∧ known path chunk)

variable {account} {path : Path} {chunk : Chunk}

theorem latest_eq_chunksOf (processes : account.Processes path) (known : Path → List Chunk) :
    account.latest known path = account.chunksOf path := by
  rcases processes with ⟨member, count, processed⟩
  exact account.latest_processed member processed known

theorem latest_eq_known (idle : ¬ account.Processes path) (known : Path → List Chunk) :
    account.latest known path = known path := by
  by_cases member : path ∈ account.files
  · exact account.latest_unprocessed (fun count processed => idle ⟨member, count, processed⟩) known
  · exact account.latest_outside member known

/-- The chunks of a file are all that came of it, if anything did. -/
theorem chunksOf_cases : account.chunksOf path = [] ∨ ∃ bounded, bounded? services configuration
    (account.proceedings.seen path) account.root path = some bounded ∧
      account.chunksOf path = bounded.chunks := by
  rw [chunksOf]
  cases bounded? services configuration (account.proceedings.seen path) account.root path with
  | none => exact .inl rfl
  | some bounded => exact .inr ⟨bounded, rfl, rfl⟩

theorem bears_of_mem_chunksOf (inside : chunk ∈ account.chunksOf path) :
    chunk.metadata.Bears path (relativePath account.root path) := by
  rcases account.chunksOf_cases with none | ⟨bounded, produced, all⟩
  · rw [none] at inside
    cases inside
  · rw [all] at inside
    exact bears_of_bounded? produced chunk inside

/-- Where the digest has no collision, no chunk gives way to another one of its file. -/
theorem lastsAmong_chunksOf {met : Set (List UInt8)} (distinct : NoCollision met)
    (meets : account.Meets met) (member : path ∈ account.files)
    (inside : chunk ∈ account.chunksOf path) : chunk.LastsAmong (account.chunksOf path) := by
  refine Chunk.lastsAmong_of_nodup ?_ inside
  rcases account.chunksOf_cases with none | ⟨bounded, produced, all⟩
  · rw [none]
    exact List.nodup_nil
  · rw [all]
    exact (bounded?_spec distinct (meets path member) produced).2

/-- What is done to the store for a file that is processed: the old rows go, and its chunks are
stored. -/
theorem effects_of_processes (processes : account.Processes path) :
    ∃ embeddings : List Embedding, embeddings.length = (account.chunksOf path).length ∧
      effects (account.proceedings.dialogue path) = replacement
        (evicts configuration account.ledger path) (relativePath account.root path)
        (account.chunksOf path) embeddings := by
  rcases processes with ⟨member, count, processed⟩
  obtain ⟨_, _, _, embeddings, _, _, produced, paired, _, _, done⟩ :=
    (account.course member).of_processed processed
  rw [chunksOf, produced]
  exact ⟨embeddings, paired, done⟩

/-- What is done to the store for a file drops the rows under its relative path, or stores chunks of
it. -/
theorem effect_cases {spoken : Path × Reply} (said : spoken ∈ account.proceedings.history)
    {effect : StoreEffect} (found : effect ∈ spoken.2.effect?) :
    (evicts configuration account.ledger spoken.1 = true ∧
        effect = .evicted (relativePath account.root spoken.1)) ∨
      ∃ embeddings, embeddings.length = (account.chunksOf spoken.1).length ∧
        effect = .stored (account.chunksOf spoken.1) embeddings := by
  have done : effect ∈ effects (account.proceedings.dialogue spoken.1) :=
    List.mem_filterMap.mpr ⟨spoken.2, mem_spokenBy_iff.mpr said, found⟩
  rcases (account.course (account.describe.marked spoken said)).effect_cases done with
    dropped | ⟨bounded, embeddings, produced, paired, stored⟩
  · exact .inl dropped
  · rw [chunksOf, produced]
    exact .inr ⟨embeddings, paired, stored⟩

theorem candid : Candid account.proceedings.history := by
  intro spoken said effect found
  rcases effect_cases said found with ⟨_, rfl⟩ | ⟨embeddings, paired, rfl⟩
  · trivial
  · exact ⟨paired, fun chunk inside => (bears_of_mem_chunksOf inside).absolutePath⟩

/-- Where no call is refused, nothing is done to the store for a file that is not processed. -/
theorem silentOn_of_idle (unrefused : account.Unrefused) (idle : ¬ account.Processes path) :
    SilentOn path account.proceedings.history := by
  rw [silentOn_iff]
  by_cases member : path ∈ account.files
  · change effects (account.proceedings.dialogue path) = []
    cases outcome : (account.proceedings.report path).outcome with
    | skipped => exact ((account.course member).of_skipped outcome).2
    | failed status message =>
        obtain ⟨_, _, _, _, refusal⟩ := failure_of_yields (account.describe.yields path member)
          (account.describe.grounded path member) outcome
        by_contra touched
        rcases refusal touched with ⟨reply, said, refused⟩
        exact unrefused path member reply said refused
    | processed count => exact absurd ⟨member, count, outcome⟩ idle
  · have foreign : ∀ spoken ∈ account.proceedings.history, spoken.1 ≠ path :=
      fun spoken said same => member (same ▸ account.describe.marked spoken said)
    rw [spokenBy_eq_nil foreign, effects_nil]

/-- A file that is not processed is covered by one that is: by the same relative path, if the rows
under it are dropped, or by a chunk with the same id. -/
theorem covers_iff_of_idle (unrefused : account.Unrefused) (idle : ¬ account.Processes path) :
    account.Covers path chunk ↔ ∃ other, account.Processes other ∧
      ((evicts configuration account.ledger other = true ∧
          relativePath account.root other = chunk.metadata.relativePath) ∨
        ∃ like ∈ account.chunksOf other, like.id = chunk.id) := by
  rw [Covers, coveredIn_iff_of_silent (silentOn_of_idle unrefused idle)]
  constructor
  · rintro ⟨spoken, said, effect, found, struck⟩
    refine ⟨spoken.1, ?_, ?_⟩
    · by_contra still
      have none := silentOn_of_idle unrefused still spoken said rfl
      rw [found] at none
      cases none
    · rcases effect_cases said found with ⟨evicted, rfl⟩ | ⟨embeddings, _, rfl⟩
      · exact .inl ⟨evicted, struck⟩
      · exact .inr struck
  · rintro ⟨other, processes, lost⟩
    obtain ⟨embeddings, _, done⟩ := effects_of_processes processes
    have struck (effect : StoreEffect)
        (member : effect ∈ effects (account.proceedings.dialogue other))
        (strikes : effect.Strikes chunk) : StruckIn account.proceedings.history chunk := by
      rcases List.mem_filterMap.mp member with ⟨reply, said, found⟩
      exact ⟨(other, reply), mem_spokenBy_iff.mp said, effect, found, strikes⟩
    rcases lost with ⟨evicted, same⟩ | ⟨like, inside, same⟩
    · refine struck (.evicted (relativePath account.root other)) ?_ same
      rw [done, replacement, if_pos evicted]
      exact List.mem_append_left _ (List.mem_singleton_self _)
    · refine struck (.stored (account.chunksOf other) embeddings) ?_ ⟨like, inside, same⟩
      rw [done, replacement_of_mem inside]
      exact List.mem_append_right _ (List.mem_singleton_self _)

section Rows

variable {rows : σ → RowTable} (keeps : services.KeepsRows rows)

include keeps

/-- A chunk of a file that is processed is stored, unless it gives way to another one of the file or
to what is done for other files after that. -/
theorem stores_iff_of_processes (processes : account.Processes path)
    (inside : chunk ∈ account.chunksOf path) : (rows after.remote).Stores chunk ↔
      chunk.LastsAmong (account.chunksOf path) ∧ ¬ account.Covers path chunk := by
  obtain ⟨embeddings, _, done⟩ := effects_of_processes processes
  rw [replacement_of_mem inside] at done
  rw [account.rows_after keeps]
  exact stores_iff_of_stored candid done inside

/-- A chunk of a file that is not processed stays stored exactly if the file is not covered. -/
theorem stores_iff_of_idle (unrefused : account.Unrefused) (idle : ¬ account.Processes path)
    (own : chunk.metadata.absolutePath = path) : (rows after.remote).Stores chunk ↔
      (rows before.remote).Stores chunk ∧ ¬ account.Covers path chunk := by
  have silent := silentOn_of_idle unrefused idle
  rw [account.rows_after keeps, stores_iff_of_silent candid own silent, Covers,
    coveredIn_iff_of_silent silent]

end Rows

end Account

/-- What runs with any roots, in which no call is refused, make of an empty store, with any changes
to the tree in between: the chunks that each file was last processed into, and which of them are gone
since then. -/
inductive Shared (rows : σ → RowTable) :
    World σ → (Path → List Chunk) → (Path → Chunk → Prop) → Prop where
  | start (world : World σ) (bare : rows world.remote = .empty) :
      Shared rows world (fun _ => []) fun _ _ => False
  | edit {world : World σ} {latest : Path → List Chunk} {covered : Path → Chunk → Prop}
      (shared : Shared rows world latest covered) (tree : FileTree) :
      Shared rows { world with tree } latest covered
  | run {services : Services σ} {session : Session} {configuration : Configuration}
      {before after : World σ} {latest : Path → List Chunk} {covered : Path → Chunk → Prop}
      (shared : Shared rows before latest covered)
      (account : Account services session configuration before after)
      (keeps : services.KeepsRows rows) (unrefused : account.Unrefused) :
      Shared rows after (account.latest latest) (account.covered covered)

namespace Shared

variable {rows : σ → RowTable} {world : World σ} {latest : Path → List Chunk}
  {covered : Path → Chunk → Prop}

/-- The chunks of a file bear its path. -/
theorem absolutePath_eq (shared : Shared rows world latest covered) {path : Path} {chunk : Chunk}
    (inside : chunk ∈ latest path) : chunk.metadata.absolutePath = path := by
  induction shared with
  | start => cases inside
  | edit _ _ inductionHypothesis => exact inductionHypothesis inside
  | run _ account _ _ inductionHypothesis =>
      by_cases processes : account.Processes path
      · rw [Account.latest_eq_chunksOf processes] at inside
        exact (Account.bears_of_mem_chunksOf inside).absolutePath
      · rw [Account.latest_eq_known processes] at inside
        exact inductionHypothesis inside

/-- Whatever roots the runs have, a chunk that a file was last processed into is in the store
exactly if it was not covered since then. -/
theorem stores_iff_uncovered (shared : Shared rows world latest covered) (path : Path) :
    ∀ chunk ∈ latest path, (rows world.remote).Stores chunk ↔ ¬ covered path chunk := by
  induction shared with
  | start => exact fun _ impossible => by cases impossible
  | edit _ _ inductionHypothesis => exact inductionHypothesis
  | run shared account keeps unrefused inductionHypothesis =>
      intro chunk inside
      by_cases processes : account.Processes path
      · rw [Account.latest_eq_chunksOf processes] at inside
        rw [Account.stores_iff_of_processes keeps processes inside, Account.covered]
        simp only [processes, true_and, not_true_eq_false, false_and, or_false, not_or, not_not]
        exact and_comm
      · rw [Account.latest_eq_known processes] at inside
        rw [Account.stores_iff_of_idle keeps unrefused processes (shared.absolutePath_eq inside),
          inductionHypothesis chunk inside, Account.covered]
        simp only [processes, false_and, false_or, not_false_eq_true, true_and, not_or]
        exact and_comm

end Shared

end Ingestion

/-! ## Two roots with a file of the same name -/

namespace Small

open Ingestion

/-- Two directories with one file in each, and no cache. -/
def twins : World RowTable :=
  ⟨{ entries :=
      [ (["r"], .directory 5000),
        (["r", "A.java"], .file "class A".toUTF8 5000),
        (["s"], .directory 5000),
        (["s", "A.java"], .file "class B".toUTF8 5000) ]
     workingDirectory := []
     clock := 5000 }, .empty, []⟩

/-- The file in the second directory. -/
def twin : Path :=
  ⟨"/s/A.java"⟩

/-- The settings with the second directory as the root. -/
def twinConfiguration : Configuration :=
  { configuration with root := ⟨"/s"⟩ }

/-- Work on one file. -/
def workOn (settings : Configuration) (path : Path) (ledger : Ledger) (before : World RowTable) :
    Progress × World RowTable :=
  runBatches (services embed) (session []) settings settings.root [([path], 0)]
    ⟨RunSummary.start 1, ledger⟩ before

/-- The work on the only file below a root goes well, and what it leaves can be saved. -/
def WorksOut (settings : Configuration) (path : Path) (ledger : Ledger) (before : World RowTable) :
    Prop :=
  settings.validate = .ok () ∧ resolveRoot settings before.tree = .ok settings.root ∧
    (discovery (services embed) settings).run before.tree settings.root = .ok [path] ∧
    (workOn settings path ledger before).1.summary = ⟨1, 1, 0, 0, 1, 0, []⟩ ∧
    (workOn settings path ledger before).1.ledger.Ordered ∧
    (workOn settings path ledger before).1.ledger.Fits ∧
    ((workOn settings path ledger before).1.ledger.save settings.cachePath
      (workOn settings path ledger before).2.tree).1 = .ok ()

/-- A run over one file that goes well, from a world with a cache. -/
structure SingleRun where
  settings : Configuration
  path : Path
  ledger : Ledger
  before : World RowTable
  keeps : before.tree.Keeps settings.cachePath
  loaded : Ledger.load before.tree settings.cachePath = .ok ledger
  worksOut : WorksOut settings path ledger before

namespace SingleRun

variable (single : SingleRun)

/-- The fingerprints afterwards. -/
def ledgerAfter : Ledger :=
  (workOn single.settings single.path single.ledger single.before).1.ledger

/-- The world afterwards, with the fingerprints saved. -/
def after : World RowTable :=
  let worked := workOn single.settings single.path single.ledger single.before
  { worked.2 with tree := (single.ledgerAfter.save single.settings.cachePath worked.2.tree).2 }

/-- The fingerprints are in the cache afterwards, and can be read and saved again. -/
theorem load_after : Ledger.load single.after.tree single.settings.cachePath =
    .ok single.ledgerAfter ∧ single.after.tree.Keeps single.settings.cachePath := by
  rcases single with ⟨settings, path, ledger, before, keeps, _, _, _, _, _, ordered, fits, saved⟩
  have distinct : (([([path], 0)] : List (List Path × Nat)).map (·.1)).flatten.Nodup := by simp
  obtain ⟨proceedings, describe, _⟩ := exists_describe_runBatches (services embed) (session [])
    settings ledger settings.root distinct ⟨RunSummary.start 1, ledger⟩ before fun _ _ => rfl
  rcases (session []).logged_spec (proceedings.records (session [])) keeps.sound with
    ⟨workedSound, workedLinks⟩
  have worked : (workOn settings path ledger before).2.tree.Keeps settings.cachePath := by
    have tree := describe.tree
    rw [← workOn] at tree
    rw [tree]
    exact keeps.of_sameLinks workedSound workedLinks
  obtain ⟨loaded, sound, links⟩ := Ledger.load_of_save worked ordered fits (eq_mk_snd saved)
  exact ⟨loaded, worked.of_sameLinks sound links⟩

/-- The run comes to the work on its file. -/
theorem run_eq : (run (services embed) (session []) single.settings).run single.before =
    (.ok ⟨1, 1, 0, 0, 1, 0, []⟩, single.after) := by
  rcases single with ⟨settings, path, ledger, before, _, loaded, valid, resolved, discovered,
    summary, _, _, saved⟩
  have alone : (blocksOf (settings.batchSize - 1) [path]).zipIdx = [([path], 0)] := by
    simp [blocksOf]
  have worked : runBatches (services embed) (session []) settings settings.root
      (blocksOf (settings.batchSize - 1) [path]).zipIdx ⟨RunSummary.start [path].length, ledger⟩
      { before with remote := ((services embed).connect before.remote).2 } =
      workOn settings path ledger before := by
    rw [alone]
    rfl
  simp only [after, ledgerAfter]
  generalize workOn settings path ledger before = done at saved summary worked
  rcases done with ⟨progress, middle⟩
  rw [run_of_discovered valid rfl loaded resolved discovered worked, saved, ← summary]
  rfl

/-- The run has an account, which tells that the file was processed. -/
theorem exists_account : ∃ account : Account (services embed) (session []) single.settings
    single.before single.after,
      account.root = single.settings.root ∧ account.files = [single.path] ∧
      account.ledger = single.ledger ∧ account.Counted ∧ account.Processes single.path ∧
      account.chunksOf single.path = ((FileJob.bounded? (services embed) single.settings
        single.before.tree single.settings.root single.path).map (·.chunks)).getD [] := by
  rcases exists_account_of_sound single.keeps.sound single.run_eq with ⟨account, told⟩
  obtain ⟨_, resolved, discovered, _⟩ := single.worksOut
  rcases root_files_eq account resolved discovered with ⟨root, files⟩
  have member : single.path ∈ account.files := by simp [files]
  have processed := account.processed_of_summary (by rw [told, files]; rfl) member
  refine ⟨account, root, files, Except.ok.inj (account.loaded.symm.trans single.loaded),
    account.counted_of_summary (by rw [told]; decide), ⟨member, processed⟩, ?_⟩
  rw [Account.chunksOf, account.seen_eq rfl member, root]

end SingleRun

theorem keeps_twins : twins.tree.Keeps configuration.cachePath := by
  have sound : twins.tree.Sound := ⟨by decide +kernel, by decide +kernel,
    FileTree.nested_of_entries (by decide +kernel), by decide +kernel⟩
  have unlinked (names : List String) : twins.tree.Unlinked [] names := by
    apply FileTree.unlinked_of_entries
    rintro held member target linked
    simp only [twins, List.mem_cons, List.not_mem_nil, or_false] at member
    rcases member with rfl | rfl | rfl | rfl <;> cases linked
  have apart : twins.tree.Apart ["r"] configuration.cachePath := by
    apply FileTree.Apart.of_names sound temporaryPath_cache
    intro names member
    rcases List.mem_pair.mp member with rfl | rfl
    · exact ⟨by decide, by decide +kernel, by decide +kernel, unlinked _⟩
    · exact ⟨by decide, by decide +kernel, by decide +kernel, unlinked _⟩
  exact apart.keeps

/-- The run over the first directory. -/
def firstRun : SingleRun where
  settings := configuration
  path := file
  ledger := .empty
  before := twins
  keeps := keeps_twins
  loaded := by decide +kernel
  worksOut := by
    unfold WorksOut Ledger.Ordered Json.Ordered Ledger.Fits Fingerprint.Fits
    decide +kernel

/-- The run over the second directory. -/
def secondRun : SingleRun where
  settings := twinConfiguration
  path := twin
  ledger := firstRun.ledgerAfter
  before := firstRun.after
  keeps := firstRun.load_after.2
  loaded := firstRun.load_after.1
  worksOut := by
    unfold WorksOut Ledger.Ordered Json.Ordered Ledger.Fits Fingerprint.Fits
    decide +kernel

/-- The second file was written anew after that. -/
def renewed : World RowTable :=
  { secondRun.after with
    tree := secondRun.after.tree.put ["s", "A.java"] (.file "class C".toUTF8 6000) }

/-- Writing what is a file or nothing, elsewhere, leaves the cache alone. -/
theorem load_put {tree : FileTree} {names : List String} {location : Location} {entry : Entry}
    {ledger : Ledger} (loaded : Ledger.load tree (Path.ofNames names) = .ok ledger)
    (keeps : tree.Keeps (Path.ofNames names)) (inside : location ≠ [])
    (legal : (∀ name ∈ location, Path.IsName name) ∧ (∀ name ∈ names, Path.IsPlain name) ∧
      tree.way location.dropLast = .onward ∧ tree.way location = .nowhere ∧
      tree.way names = .nowhere ∧ (tree.get? names).isSome)
    (file : entry.way = .nowhere) (apart : names ≠ [] ∧ ¬ location <+: names) :
    Ledger.load (tree.put location entry) (Path.ofNames names) = .ok ledger ∧
      (tree.put location entry).Keeps (Path.ofNames names) := by
  rcases legal with ⟨named, plain, around, blocked, calm, present⟩
  have sound : (tree.put location entry).Sound := by
    refine keeps.sound.put inside named around fun onward => ?_
    rw [blocked] at onward
    cases onward
  have links : FileTree.SameLinks tree (tree.put location entry) := by
    apply (FileTree.changes_put inside).sameLinks
    · intro target follow
      rw [blocked] at follow
      cases follow
    · intro target follow
      rw [FileTree.way_put inside, if_pos rfl, file] at follow
      cases follow
  refine ⟨?_, keeps.of_sameLinks sound links⟩
  rcases Option.isSome_iff_exists.mp present with ⟨cache, held⟩
  rw [FileTree.way_of_get? held] at calm
  refine (Ledger.load_congr ?_).trans loaded
  refine keeps.sound.find_eq_of_retains plain apart.1 held calm fun part inner => ?_
  apply FileTree.retains_put
  rintro rfl
  exact apart.2 inner

theorem load_renewed :
    Ledger.load renewed.tree configuration.cachePath = .ok secondRun.ledgerAfter ∧
      renewed.tree.Keeps configuration.cachePath := by
  rcases secondRun.load_after with ⟨loaded, keeps⟩
  exact @load_put secondRun.after.tree ["c", "cache.json"] ["s", "A.java"] _ _ loaded keeps
    (by decide) (by decide +kernel) rfl (by decide)

/-- The run over the second directory after that. -/
def thirdRun : SingleRun where
  settings := twinConfiguration
  path := twin
  ledger := secondRun.ledgerAfter
  before := renewed
  keeps := load_renewed.2
  loaded := load_renewed.1
  worksOut := by
    unfold WorksOut Ledger.Ordered Json.Ordered Ledger.Fits Fingerprint.Fits
    decide +kernel

/-- The second root has its file indexed anew, and the first one loses its chunk, though the cache
has its fingerprint and that is up to date. -/
theorem stores_iff_uncovered_twins :
    ∃ latest covered, Shared id thirdRun.after latest covered ∧
      (∃ chunk ∈ latest file, covered file chunk ∧ ¬ thirdRun.after.remote.Stores chunk) ∧
      ∃ ledger, Ledger.load thirdRun.after.tree configuration.cachePath = .ok ledger ∧
        ledger.has file = true ∧ ledger.outdated thirdRun.after.tree file = false := by
  obtain ⟨first, firstRoot, -, -, -, firstProcesses, chunks⟩ := firstRun.exists_account
  obtain ⟨second, -, secondFiles, -⟩ := secondRun.exists_account
  obtain ⟨third, root, thirdFiles, ledger, -, processes, -⟩ := thirdRun.exists_account
  have keeps : (services embed).KeepsRows id := Services.keepsRows_ofTable _ _ _ _ _
  have start : Shared id twins (fun _ => []) fun _ _ => False := .start twins rfl
  have twice := (start.run first keeps fun _ _ _ said => not_refused first said).run second keeps
    fun _ _ _ said => not_refused second said
  have unrefused : third.Unrefused := fun _ _ _ said => not_refused third said
  have shared := (twice.edit renewed.tree).run third keeps unrefused
  have other : file ∉ [twin] := by decide
  have idleSecond : ¬ second.Processes file := fun done => other (secondFiles ▸ done.1)
  have idleThird : ¬ third.Processes file := fun done => other (thirdFiles ▸ done.1)
  have latest : third.latest (second.latest (first.latest fun _ => [])) file =
      first.chunksOf file := by
    rw [Account.latest_eq_known idleThird, Account.latest_eq_known idleSecond]
    exact Account.latest_eq_chunksOf firstProcesses _
  have some : first.chunksOf file ≠ [] := by
    change first.chunksOf firstRun.path ≠ []
    rw [chunks]
    decide +kernel
  rcases List.exists_mem_of_ne_nil _ some with ⟨chunk, inside⟩
  have covers : third.Covers file chunk := by
    refine (Account.covers_iff_of_idle unrefused idleThird).mpr ⟨twin, processes, .inl ?_⟩
    rw [(Account.bears_of_mem_chunksOf inside).relativePath, firstRoot, root, ledger]
    decide +kernel
  have covered : third.covered (second.covered (first.covered fun _ _ => False)) file chunk :=
    .inl covers
  rw [← latest] at inside
  have lost : ¬ thirdRun.after.remote.Stores chunk := fun stored =>
    (shared.stores_iff_uncovered file chunk inside).mp stored covered
  exact ⟨_, _, shared, ⟨chunk, inside, covered, lost⟩, thirdRun.ledgerAfter,
    thirdRun.load_after.1, by decide +kernel, by decide +kernel⟩

end Small

end SourceHarvest
