import SourceHarvest.Proofs.Ingestion.Aborting
import SourceHarvest.Proofs.Syntax.Extraction

/-!
# The calls for one file

For each file a run makes at most two calls to the store, and the first that is refused is the
last one.  There is none before all chunks of the file have got their vectors.  So a file that
fails keeps its fingerprint, and its rows too, unless they were dropped and the new chunks were
refused.
-/

namespace SourceHarvest

/-! ## The order of chunks -/

namespace BoundedChunks

/-- Units in the order of the document: they stand at ascending addresses of the syntax tree, or
there is a single one, the whole source. -/
inductive InDocument (configuration : Configuration) (parsed : ParsedSource) :
    List ExtractedChunk → Prop where
  | placed {extracted : List ExtractedChunk} (chosen : List (List Nat))
      (ascending : chosen.Pairwise (· < ·))
      (placed : List.Forall₂ (fun address unit => ∃ tree,
        parsed.tree.UnitAt ((configuration.unitsFor? parsed.language).getD []) parsed.source address
          tree unit.content) chosen extracted) :
      InDocument configuration parsed extracted
  | whole (unit : ExtractedChunk) (whole : unit.content = parsed.source) :
      InDocument configuration parsed [unit]

/-- The chunks that are kept of a source: those over its units, in the order of the document, are cut
into windows, and windows with too many tokens are left out. -/
def KeptInOrder (configuration : Configuration) (parsed : ParsedSource) (chunks : List Chunk) : Prop :=
  ∃ extracted cuts, InDocument configuration parsed extracted ∧
    List.Forall₂ (fun chunk pieces => chunk.split configuration.window = .ok pieces)
      (assignIds extracted) cuts ∧
    chunks = cuts.flatten.filter fun chunk =>
      estimateTokens chunk.content ≤ configuration.hardTokenLimit

variable {configuration : Configuration} {path : Path} {relativePath : String}
  {parsed : ParsedSource}

theorem inDocument_of_units {extracted : List ExtractedChunk}
    (found : units configuration path relativePath parsed = .ok extracted) :
    InDocument configuration parsed extracted := by
  simp only [units] at found
  split at found
  · split at found
    · cases found
    · split at found
      · cases found
        rw [SourceFile.wholeChunk?]
        split
        · exact .placed [] .nil .nil
        · exact .whole _ rfl
      · cases found
        exact .placed [] .nil .nil
  · cases found
    obtain ⟨chosen, _, ascending, _, each⟩ := SyntaxTree.extract_spec
      ((configuration.unitsFor? parsed.language).getD [])
      ⟨path, relativePath, parsed.language, parsed.source⟩ parsed.tree
    exact .placed chosen ascending (each.imp fun _ _ placed => placed.imp fun _ both => both.1)

theorem keptInOrder_of_ofParsed {bounded : BoundedChunks}
    (cut : ofParsed configuration path relativePath parsed = .ok bounded) :
    KeptInOrder configuration parsed bounded.chunks := by
  obtain ⟨extracted, cuts, found, each, rfl⟩ := exists_bound_of_ofParsed cut
  exact ⟨extracted, cuts, inDocument_of_units found, each, rfl⟩

end BoundedChunks

/-! ## The calls of a job -/

/-- What does something to the store is a call to it. -/
theorem Reply.isForStore_of_effect? {reply : Reply} (does : reply.effect? ≠ none) :
    reply.request.isForStore = true := by
  rcases reply with ⟨request, answer⟩
  cases request with
  | evict | upsert => rfl
  | modified | read | parse | embed => exact absurd rfl does

namespace FileJob

/-- The old rows of a file were dropped, and then the new ones were refused. -/
def Stranded (relativePath : String) (dialogue : List Reply) : Prop :=
  ∃ chunks embeddings, ∃ failure : Failure, storeCalls dialogue =
    [⟨.evict relativePath, .ok ()⟩, ⟨.upsert chunks embeddings, .error failure⟩]

variable {σ : Type} {services : Services σ} {configuration : Configuration} {tree : FileTree}
  {ledger : Ledger} {root path : Path} {dialogue : List Reply} {result : FileReport}

/-- A file that fails has done nothing to the store, unless it is stranded. -/
theorem Follows.effects_of_failed
    (follows : Follows services configuration tree ledger root path dialogue result)
    {status : Status} {message : String} (failed : result.outcome = .failed status message) :
    effects dialogue = [] ∨ Stranded (relativePath root path) dialogue := by
  cases follows with
  | skipped | carried => cases failed
  | unprepared _ _ silent _ => exact .inl (effects_of_silent silent)
  | stopped _ preparation commits _ =>
      rcases commits.carries.cases_plan with ⟨impossible, _⟩ | ⟨_, untouched⟩ | ⟨_, _, failure, calls⟩
      · cases impossible
      · rw [effects_storeCalls] at untouched
        exact .inl untouched
      · exact .inr ⟨_, _, failure, calls⟩

/-- Of what a file says that fails nothing does anything to the store, but the call that its old rows
were dropped by if it is stranded. -/
theorem Follows.effect?_of_failed
    (follows : Follows services configuration tree ledger root path dialogue result)
    {status : Status} {message : String} (failed : result.outcome = .failed status message)
    {reply : Reply} (said : reply ∈ dialogue) :
    reply.effect? = none ∨
      Stranded (relativePath root path) dialogue ∧ reply = ⟨.evict (relativePath root path), .ok ()⟩ := by
  by_cases does : reply.effect? = none
  · exact .inl does
  rcases follows.effects_of_failed failed with untouched | stranded
  · exact .inl (List.filterMap_eq_nil_iff.mp untouched reply said)
  · obtain ⟨chunks, embeddings, failure, calls⟩ := stranded
    have called : reply ∈ storeCalls dialogue :=
      List.mem_filter.mpr ⟨said, Reply.isForStore_of_effect? does⟩
    rw [calls] at called
    rcases List.mem_pair.mp called with rfl | rfl
    · exact .inr ⟨⟨chunks, embeddings, failure, calls⟩, rfl⟩
    · exact absurd rfl does

/-- Chunks go to the store in the order of the document, and each with the vector that was given for
its content. -/
theorem Follows.stores
    (follows : Follows services configuration tree ledger root path dialogue result)
    {chunks : List Chunk} {embeddings : List Embedding} {answer : Except Failure Unit}
    (said : ⟨.upsert chunks embeddings, answer⟩ ∈ dialogue) :
    chunks ≠ [] ∧ embeddings.length = chunks.length ∧
      ⟨.embed (chunks.map (·.content)), .ok embeddings⟩ ∈ dialogue ∧
      ∃ source parsed, tree.source? path = some source ∧ services.parse path source = .ok parsed ∧
        BoundedChunks.KeptInOrder configuration parsed chunks := by
  have called : ⟨.upsert chunks embeddings, answer⟩ ∈ storeCalls dialogue :=
    List.mem_filter.mpr ⟨said, rfl⟩
  have planned {preparation : Preparation} {success : Bool}
      (commits : preparation.Commits services configuration tree root path
        (evicts configuration ledger path) dialogue success) :
      chunks ≠ [] ∧ chunks = preparation.bounded.chunks ∧ embeddings = preparation.embeddings := by
    have member := commits.carries.isPrefix.subset (List.mem_map_of_mem called)
    rcases List.mem_append.mp member with dropping | storing
    · split at dropping
      · cases List.mem_singleton.mp dropping
      · cases dropping
    · split at storing
      · cases storing
      · rename_i filled
        cases List.mem_singleton.mp storing
        exact ⟨fun none => filled (List.isEmpty_iff.mpr none), rfl, rfl⟩
  cases follows with
  | skipped _ _ silent | unprepared _ _ silent _ =>
      rw [silent] at called
      cases called
  | stopped _ preparation commits _ | carried _ preparation commits =>
      obtain ⟨filled, rfl, rfl⟩ := planned commits
      have made := commits.made
      obtain ⟨parsed, grammar, cut⟩ := made.cut
      exact ⟨filled, made.paired, made.measured.resolve_left filled, preparation.source, parsed,
        made.readable, grammar, BoundedChunks.keptInOrder_of_ofParsed cut⟩

end FileJob

/-! ## The calls of a run -/

namespace Ingestion

open FileJob

variable {σ : Type} {services : Services σ} {session : Session} {configuration : Configuration}
  {before middle : World σ}

namespace Work

variable (work : Work services session configuration before middle) {path : Path}

/-- What the run knows when it begins with its first batch. -/
def start : Progress :=
  ⟨RunSummary.start work.files.length, work.ledger⟩

/-- The batches of the run, with their numbers. -/
def batches : List (List Path × Nat) :=
  (blocksOf (configuration.batchSize - 1) work.files).zipIdx

theorem flatten_batches : (work.batches.map (·.1)).flatten = work.files := by
  rw [batches, List.zipIdx_map_fst, flatten_blocksOf]

/-- How the work on one file of a run goes. -/
structure Protocol (path : Path) : Prop where
  /-- When the batch of the file begins, its fingerprint is the one that was loaded. -/
  begun : ∀ earlier batch later, work.batches = earlier ++ batch :: later → path ∈ batch.1 →
    (runBatches services session configuration work.root earlier work.start
      { before with remote := (services.connect before.remote).2 }).1.ledger.get? path =
        work.ledger.get? path
  follows : Follows services configuration (work.proceedings.seen path) work.ledger work.root path
    (work.proceedings.dialogue path) (work.proceedings.report path)
  stores : ∀ chunks embeddings answer,
    ⟨.upsert chunks embeddings, answer⟩ ∈ work.proceedings.dialogue path →
      chunks ≠ [] ∧ embeddings.length = chunks.length ∧
        ⟨.embed (chunks.map (·.content)), .ok embeddings⟩ ∈ work.proceedings.dialogue path ∧
        ∃ source parsed, (work.proceedings.seen path).source? path = some source ∧
          services.parse path source = .ok parsed ∧
          BoundedChunks.KeptInOrder configuration parsed chunks
  /-- A file that fails keeps its fingerprint. -/
  fingerprint : ∀ status message,
    (work.proceedings.report path).outcome = .failed status message →
      work.finalLedger.get? path = work.ledger.get? path
  /-- Nothing that is said for a file that fails changes a row, but that its rows are dropped if it is
  stranded. -/
  rows : ∀ (rows : σ → RowTable), services.KeepsRows rows → ∀ status message,
    (work.proceedings.report path).outcome = .failed status message →
    ∀ earlier reply later, work.proceedings.history = earlier ++ (path, reply) :: later →
      ∃ here next, services.HearsAll (services.connect before.remote).2 (earlier.map (·.2)) here ∧
        services.Hears here reply next ∧ services.HearsAll next (later.map (·.2)) middle.remote ∧
        (reply.effect? = none ∧ rows next = rows here ∨
          Stranded (relativePath work.root path) (work.proceedings.dialogue path) ∧
            reply = ⟨.evict (relativePath work.root path), .ok ()⟩ ∧
            rows next = (rows here).deleteFile (relativePath work.root path))

/-- Earlier batches leave the fingerprint of a file alone. -/
theorem get?_of_batches {earlier later : List (List Path × Nat)} {batch : List Path × Nat}
    (cut : work.batches = earlier ++ batch :: later) (member : path ∈ batch.1) :
    (runBatches services session configuration work.root earlier work.start
      { before with remote := (services.connect before.remote).2 }).1.ledger.get? path =
        work.ledger.get? path := by
  have whole := work.flatten_batches
  rw [cut, List.map_append, List.map_cons, List.flatten_append, List.flatten_cons] at whole
  have distinct := work.distinct
  rw [← whole, List.nodup_append'] at distinct
  obtain ⟨once, _, apart⟩ := distinct
  obtain ⟨proceedings, describe, progressed⟩ := exists_describe_runBatches services session
    configuration work.ledger work.root once work.start
    { before with remote := (services.connect before.remote).2 } fun _ _ => rfl
  rw [progressed, Progress.after, describe.get?_absorbAll once,
    if_neg fun inside => apart inside (List.mem_append_left _ member)]
  rfl

/-- The work on a file of a run goes by the protocol. -/
theorem protocol (member : path ∈ work.files) : work.Protocol path := by
  have follows := follows_of_yields (work.describe.yields path member)
    (work.describe.grounded path member)
  refine ⟨fun _ _ _ => work.get?_of_batches, follows, fun _ _ _ => follows.stores, ?_, ?_⟩
  · intro status message failed
    rw [work.get?_finalLedger, if_pos member]
    generalize work.proceedings.report path = report at follows failed
    cases follows with
    | skipped | carried => cases failed
    | unprepared | stopped => rfl
  · intro rows keeps status message failed earlier reply later cut
    have heard := work.describe.hears
    rw [cut, List.map_append, List.map_cons] at heard
    obtain ⟨here, start, next, hears, rest⟩ := Services.exists_hearsAll_of_append heard
    refine ⟨here, next, start, hears, rest, ?_⟩
    have said : reply ∈ work.proceedings.dialogue path := by
      rw [Proceedings.dialogue, mem_spokenBy_iff, cut]
      exact List.mem_append_right _ List.mem_cons_self
    have done := keeps.rows_hears hears
    rcases follows.effect?_of_failed failed said with nothing | ⟨stranded, rfl⟩
    · rw [nothing] at done
      exact .inl ⟨nothing, done⟩
    · exact .inr ⟨stranded, rfl, done⟩

end Work

/-- A run calls the store for no file, or for all files that it found by the protocol; then it
saves the fingerprints. -/
theorem store_calls_by_protocol (session : Session) (sound : before.tree.Sound) :
    (∃ failure remote, Halts services configuration before failure remote ∧
      (run services session configuration).run before = (.error failure, { before with remote })) ∨
    ∃ (middle : World σ) (work : Work services session configuration before middle),
      (run services session configuration).run before =
        ((work.finalLedger.save configuration.cachePath middle.tree).1.map fun _ => work.summary,
          { middle with
            tree := (work.finalLedger.save configuration.cachePath middle.tree).2 }) ∧
      ∀ path ∈ work.files, work.Protocol path := by
  rcases halts_or_begins services configuration before with ⟨failure, remote, halts⟩ | ⟨files, begins⟩
  · exact .inl ⟨failure, remote, halts, run_of_halts halts⟩
  · obtain ⟨middle, work, _, ran⟩ := exists_work session sound begins
    exact .inr ⟨middle, work, ran, fun path member => work.protocol member⟩

end Ingestion

namespace Small

open FileJob Ingestion

/-- Services whose store drops rows and takes no new ones. -/
def full : Services RowTable :=
  .ofTable ["java"] (fun _ source => .ok (parsed source)) embed (fun _ => .ok ()) fun _ =>
    .error (Failure.ofMessage "full")

/-- The file was written since it was indexed, and there is a row of it. -/
def rewritten : World RowTable where
  tree := tree [("A.java", "class A")] (some ⟨[("/r/A.java", ⟨"", 4000, 1⟩)]⟩)
  remote := ⟨[⟨⟨"", "", ⟨file, "A.java", none, none, none, .file, "java", 1, 1, ""⟩⟩, ⟨[]⟩⟩]⟩
  records := []

theorem sound_rewritten : rewritten.tree.Sound :=
  sound_tree (some _) (by decide) (by decide)

/-- The run ends with one error and no rows. -/
theorem run_full : ((run full (session []) configuration).run rewritten).1 =
      .ok ⟨1, 0, 0, 1, 0, 0, [⟨file, .storageError, "Vector store upsert failed: full"⟩]⟩ ∧
    ((run full (session []) configuration).run rewritten).2.remote = .empty := by
  have loaded : Ledger.load rewritten.tree configuration.cachePath =
      .ok ⟨[("/r/A.java", ⟨"", 4000, 1⟩)]⟩ :=
    load_cache _ (List.pairwise_singleton _ _)
      (by simp [Ledger.Fits, Fingerprint.Fits, Json.greatestWord])
  have resolved : resolveRoot configuration rewritten.tree = .ok ⟨"/r"⟩ := by decide +kernel
  have discovered : (discovery full configuration).run rewritten.tree ⟨"/r"⟩ = .ok [file] := by
    decide +kernel
  rw [run_of_discovered (by decide) rfl loaded resolved discovered Prod.mk.eta.symm]
  decide +kernel

/-- The file is stranded: it fails after its row is gone. -/
theorem store_calls_by_protocol_full :
    ∃ (middle : World RowTable) (work : Work full (session []) configuration rewritten middle)
      (status : Status) (message : String),
      work.Protocol file ∧ (work.proceedings.report file).outcome = .failed status message ∧
        Stranded "A.java" (work.proceedings.dialogue file) ∧
        (rewritten.remote.ofFile "A.java").length = 1 ∧ middle.remote = .empty := by
  obtain ⟨summed, emptied⟩ := run_full
  rcases store_calls_by_protocol (session []) sound_rewritten with
    ⟨_, _, _, stopped⟩ | ⟨middle, work, ran, protocol⟩
  · rw [stopped] at summed
    cases summed
  rw [ran] at summed emptied
  have root : work.root = ⟨"/r"⟩ :=
    Except.ok.inj (work.resolved.symm.trans (by decide +kernel))
  have discovered := work.discovered
  rw [root] at discovered
  have files : work.files = [file] := Except.ok.inj (discovered.symm.trans (by decide +kernel))
  obtain ⟨member, failed⟩ := work.describe.mem_failures_iff.mp (by
    rw [← Work.summary, work.summary_eq summed]
    exact List.mem_singleton_self _)
  have follows := (protocol file member).follows
  have place : relativePath work.root file = "A.java" := by
    rw [root]
    decide +kernel
  refine ⟨middle, work, _, _, protocol file member, failed, ?_, by decide +kernel, emptied⟩
  rcases follows.effects_of_failed failed with untouched | stranded
  · -- Nothing would have been done to the store, but its row is gone.
    have alone : work.proceedings.history.map (·.2) = work.proceedings.dialogue file := by
      rw [Proceedings.dialogue, spokenBy, List.filter_eq_self.mpr]
      intro spoken inside
      simpa [files] using work.describe.marked spoken inside
    have rows := (Services.keepsRows_ofTable _ _ _ _ _).rows_hearsAll work.describe.hears
    rw [alone, untouched] at rows
    have kept : middle.remote = rewritten.remote := rows
    rw [emptied] at kept
    exact absurd kept (by decide +kernel)
  · rwa [place] at stranded

end Small

end SourceHarvest
