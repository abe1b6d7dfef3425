import SourceHarvest.Proofs.Ingestion.TableServices
import SourceHarvest.Proofs.VectorStore.Commuting

/-!
# Scheduling does not matter

Two runs from the same world that differ in their batches, in how many files they work on at a
time and in whose turn it is when, come to the same: the same sums, the same records but for
their order, the same rows and the same fingerprints.  The services must answer a question about a
file by that question alone, and the files must be told apart by their relative paths.
-/

namespace SourceHarvest

/-! ## Runs that come to the same -/

/-- The sums over the same reports in another order: only failures can be in another order. -/
structure RunSummary.Alike (first second : RunSummary) : Prop where
  filesDiscovered : first.filesDiscovered = second.filesDiscovered
  processed : first.processed = second.processed
  skipped : first.skipped = second.skipped
  errors : first.errors = second.errors
  chunksCreated : first.chunksCreated = second.chunksCreated
  chunksDropped : first.chunksDropped = second.chunksDropped
  failures : first.failures.Perm second.failures

theorem RunSummary.alike_foldl_absorb {first second : List FileReport} (same : first.Perm second)
    (summary : RunSummary) :
    Alike (first.foldl absorb summary) (second.foldl absorb summary) := by
  have failures := same.filterMap FileReport.failure?
  rw [foldl_absorb, foldl_absorb]
  exact
    { filesDiscovered := rfl
      processed := by simp only [same.countP_eq]
      skipped := by simp only [same.countP_eq]
      errors := by simp only [failures.length_eq]
      chunksCreated := by simp only [(same.map FileReport.chunkCount).sum_nat]
      chunksDropped := by simp only [(same.map FileReport.dropped).sum_nat]
      failures := failures.append_left _ }

/-- A record without the times and the session it was made in. -/
def OutcomeRecord.anonymous (record : OutcomeRecord) : OutcomeRecord :=
  { record with timestamp := 0, sessionId := "", duration := 0 }

/-! ## Answers that follow from the question -/

/-- What a session adds to its log shows in none of the files. -/
def Session.Spares (session : Session) (tree : FileTree) (files : List Path) : Prop :=
  ∀ records, ∀ path ∈ files,
    (session.logged records tree).modified path = tree.modified path ∧
      (session.logged records tree).read path = tree.read path

/-- The vectors and the store answer as they do in some state. -/
def Reply.Given {σ : Type} (services : Services σ) (remote : σ) : Reply → Prop
  | ⟨.embed texts, answer⟩ => answer = (services.embed texts remote).1
  | ⟨.evict relativePath, answer⟩ => answer = (services.deleteFile relativePath remote).1
  | ⟨.upsert chunks embeddings, answer⟩ => answer = (services.upsert chunks embeddings remote).1
  | _ => True

namespace Services

variable {σ : Type} {services : Services σ}

/-- What is heard is answered at some time as it would be at any other. -/
theorem Steady.given_of_hearsAll (steady : services.Steady) {remote final : σ}
    {dialogue : List Reply} (hears : services.HearsAll remote dialogue final) (other : σ) :
    ∀ reply ∈ dialogue, reply.Given services other := by
  induction dialogue generalizing remote with
  | nil => exact fun _ impossible => (List.not_mem_nil impossible).elim
  | cons first rest inductionHypothesis =>
      rcases hears with ⟨next, here, later⟩
      intro reply member
      rcases List.mem_cons.mp member with rfl | inside
      · rcases reply with ⟨request, answer⟩
        cases request with
        | modified | read | parse => trivial
        | embed texts =>
            have said : services.embed texts remote = (answer, next) := here
            have same := steady.embed texts remote other
            rw [said] at same
            exact same
        | evict relativePath =>
            have said : services.deleteFile relativePath remote = (answer, next) := here
            have same := steady.deleteFile relativePath remote other
            rw [said] at same
            exact same
        | upsert chunks embeddings =>
            have said : services.upsert chunks embeddings remote = (answer, next) := here
            have same := steady.upsert chunks embeddings remote other
            rw [said] at same
            exact same
      · exact inductionHypothesis later reply inside

end Services

namespace Ingestion

open FileJob

variable {σ : Type} {services : Services σ} {session : Session} {configuration : Configuration}
  {before after : World σ}

/-- All that was said about a file is what the services and the tree say at the start. -/
theorem Account.answer_eq (account : Account services session configuration before after)
    (steady : services.Steady) (spares : session.Spares before.tree account.files) {path : Path}
    (member : path ∈ account.files) :
    ∀ reply ∈ account.proceedings.dialogue path,
      reply.answer = (services.answer reply.request before).1 := by
  intro reply said
  rcases account.describe.seen path member with ⟨count, seen⟩
  rcases spares ((account.proceedings.records session).take count) path member with ⟨modified, read⟩
  have grounded := account.describe.grounded path member reply said
  have about := (asks_process configuration account.ledger account.root path).of_yields
    (account.describe.yields path member) reply said
  have heard := steady.given_of_hearsAll account.describe.hears before.remote reply
    (List.mem_map_of_mem (mem_spokenBy_iff.mp said))
  rw [seen] at grounded
  rcases reply with ⟨request, answer⟩
  cases request with
  | modified asked =>
      obtain rfl : asked = path := about
      exact Eq.trans grounded modified
  | read asked =>
      obtain rfl : asked = path := about
      exact Eq.trans grounded read
  | parse asked source => exact grounded
  | embed | evict | upsert => exact heard

theorem Account.spared_meets (account : Account services session configuration before after)
    (spares : session.Spares before.tree account.files) {met : Set (List UInt8)}
    (meets : ∀ path ∈ account.files,
      FileJob.Meets services configuration before.tree account.root path met) :
    account.Meets met := by
  intro path member source parsed readable
  rcases account.describe.seen path member with ⟨count, seen⟩
  refine meets path member source parsed ?_
  rwa [seen, FileTree.source?, (spares _ path member).2] at readable

/-- What two runs have in common that come to the same: only failures, records and rows can be in
another order.  The caches are loaded as the same where records in logs cannot get in the way. -/
structure SameHarvest (rows : σ → RowTable) (cachePath : Path) (first second : Session)
    (before afterFirst afterSecond : World σ) (firstSummary secondSummary : RunSummary) : Prop where
  summary : firstSummary.Alike secondSummary
  records : ∃ firstRecords secondRecords, afterFirst.records = before.records ++ firstRecords ∧
    afterSecond.records = before.records ++ secondRecords ∧
    (firstRecords.map OutcomeRecord.anonymous).Perm (secondRecords.map OutcomeRecord.anonymous)
  rows : (rows afterFirst.remote).Alike (rows afterSecond.remote)
  saved : ∃ ledger firstTree secondTree,
    Ledger.save ledger cachePath firstTree = (.ok (), afterFirst.tree) ∧
      ledger.save cachePath secondTree = (.ok (), afterSecond.tree)
  loaded : first.log = none ∧ second.log = none ∨ before.tree.Keeps cachePath →
    Ledger.load afterFirst.tree cachePath = Ledger.load afterSecond.tree cachePath

section Both

variable {first second : Session} {batchSize concurrency : Nat} {afterFirst afterSecond : World σ}
  (firstAccount : Account services first configuration before afterFirst)
  (secondAccount : Account services second { configuration with batchSize, concurrency } before
    afterSecond)

/-- The two runs find the same files below the same root, and start with the same fingerprints. -/
theorem same_start : secondAccount.root = firstAccount.root ∧
    secondAccount.files = firstAccount.files ∧ secondAccount.ledger = firstAccount.ledger := by
  have root : secondAccount.root = firstAccount.root :=
    Except.ok.inj (secondAccount.resolved.symm.trans firstAccount.resolved)
  have files := firstAccount.discovered
  rw [← root] at files
  exact ⟨root, Except.ok.inj (secondAccount.discovered.symm.trans files),
    Except.ok.inj (secondAccount.loaded.symm.trans firstAccount.loaded)⟩

/-- In both runs the same is said about each file, and the same is reported on it. -/
theorem same_dialogue (steady : services.Steady)
    (firstSpares : first.Spares before.tree firstAccount.files)
    (secondSpares : second.Spares before.tree firstAccount.files) {path : Path}
    (member : path ∈ firstAccount.files) :
    firstAccount.proceedings.dialogue path = secondAccount.proceedings.dialogue path ∧
      firstAccount.proceedings.report path = secondAccount.proceedings.report path := by
  rcases same_start firstAccount secondAccount with ⟨root, files, ledger⟩
  rw [← files] at secondSpares
  have yields := secondAccount.describe.yields path (files ▸ member)
  rw [process_batching, root, ledger] at yields
  exact (firstAccount.describe.yields path member).unique
    (fun request => (services.answer request before).1) yields
    (firstAccount.answer_eq steady firstSpares member)
    (secondAccount.answer_eq steady secondSpares (files ▸ member))

include secondAccount in
/-- The reports of the two runs are the same but for their order. -/
theorem same_reports (steady : services.Steady)
    (firstSpares : first.Spares before.tree firstAccount.files)
    (secondSpares : second.Spares before.tree firstAccount.files) :
    firstAccount.proceedings.reports.Perm secondAccount.proceedings.reports := by
  have files := (same_start firstAccount secondAccount).2.1
  have reports : firstAccount.files.map firstAccount.proceedings.report =
      firstAccount.files.map secondAccount.proceedings.report :=
    List.map_congr_left fun path member =>
      (same_dialogue firstAccount secondAccount steady firstSpares secondSpares member).2
  have order := firstAccount.describe.order.map firstAccount.proceedings.report
  have otherOrder := secondAccount.describe.order.map secondAccount.proceedings.report
  rw [reports] at order
  rw [files] at otherOrder
  exact order.trans otherOrder.symm

/-- The two runs end with the same fingerprints. -/
theorem same_finalLedger (steady : services.Steady)
    (firstSpares : first.Spares before.tree firstAccount.files)
    (secondSpares : second.Spares before.tree firstAccount.files) :
    firstAccount.finalLedger = secondAccount.finalLedger := by
  rcases same_start firstAccount secondAccount with ⟨_, files, ledger⟩
  apply ((Ledger.ordered_of_load firstAccount.loaded).absorbAll _).ext
    ((Ledger.ordered_of_load secondAccount.loaded).absorbAll _)
  intro path
  rw [← Account.finalLedger, ← Account.finalLedger, firstAccount.get?_finalLedger,
    secondAccount.get?_finalLedger, files, ledger]
  split
  · rename_i member
    rw [(same_dialogue firstAccount secondAccount steady firstSpares secondSpares member).2]
  · rfl

/-- What was said in the two runs differs in how the files were woven into each other alone. -/
theorem same_parts (steady : services.Steady)
    (firstSpares : first.Spares before.tree firstAccount.files)
    (secondSpares : second.Spares before.tree firstAccount.files) (path : Path) :
    spokenBy path firstAccount.proceedings.history =
      spokenBy path secondAccount.proceedings.history := by
  by_cases member : path ∈ firstAccount.files
  · exact (same_dialogue firstAccount secondAccount steady firstSpares secondSpares member).1
  · have files := (same_start firstAccount secondAccount).2.1
    have silent : spokenBy path firstAccount.proceedings.history = [] := spokenBy_eq_nil
      fun spoken inside same => member (same ▸ firstAccount.describe.marked spoken inside)
    have otherSilent : spokenBy path secondAccount.proceedings.history = [] := spokenBy_eq_nil
      fun spoken inside same => member (files ▸ same ▸ secondAccount.describe.marked spoken inside)
    rw [silent, otherSilent]

end Both

/-- Runs that differ in batches, in how many files are worked on at a time and in whose turn it
is when come to the same. -/
theorem schedules_agree {first second : Session} {batchSize concurrency : Nat}
    {afterFirst afterSecond : World σ} {firstSummary secondSummary : RunSummary}
    (firstRan : (run services first configuration).run before = (.ok firstSummary, afterFirst))
    (secondRan : (run services second { configuration with batchSize, concurrency }).run before =
      (.ok secondSummary, afterSecond))
    {root : Path} {files : List Path}
    (resolved : resolveRoot configuration before.tree = .ok root)
    (found : (discovery services configuration).run before.tree root = .ok files)
    (apart : (files.map (relativePath root)).Nodup) (steady : services.Steady)
    {rows : σ → RowTable} (keeps : services.KeepsRows rows)
    (firstSpares : first.Spares before.tree files) (secondSpares : second.Spares before.tree files)
    {met : Set (List UInt8)} (distinct : NoCollision met)
    (meets : ∀ path ∈ files, FileJob.Meets services configuration before.tree root path met) :
    SameHarvest rows configuration.cachePath first second before afterFirst afterSecond firstSummary
      secondSummary := by
  have once (other : Path) (others : List Path)
      (otherResolved : resolveRoot configuration before.tree = .ok other)
      (otherFound : (discovery services configuration).run before.tree other = .ok others) :
      others.Nodup := by
    obtain rfl := Except.ok.inj (resolved.symm.trans otherResolved)
    obtain rfl := Except.ok.inj (found.symm.trans otherFound)
    exact apart.of_map _
  rcases exists_account firstRan once with ⟨firstAccount, rfl⟩
  rcases exists_account secondRan once with ⟨secondAccount, rfl⟩
  obtain rfl : root = firstAccount.root :=
    Except.ok.inj (resolved.symm.trans firstAccount.resolved)
  obtain rfl : files = firstAccount.files := Except.ok.inj (found.symm.trans firstAccount.discovered)
  have reports := same_reports firstAccount secondAccount steady firstSpares secondSpares
  have ledgers := same_finalLedger firstAccount secondAccount steady firstSpares secondSpares
  have parts := same_parts firstAccount secondAccount steady firstSpares secondSpares
  have files := (same_start firstAccount secondAccount).2.1
  have minded := firstAccount.minded distinct (firstAccount.spared_meets firstSpares meets)
  have firstSaved := firstAccount.saved
  have secondSaved := secondAccount.saved
  rw [← Account.finalLedger] at firstSaved
  rw [← Account.finalLedger, ← ledgers] at secondSaved
  refine ⟨?_, ⟨_, _, firstAccount.describe.records, secondAccount.describe.records, ?_⟩, ?_,
    ⟨_, _, _, firstSaved, secondSaved⟩, ?_⟩
  · rw [firstAccount.summed, secondAccount.summed, files]
    exact RunSummary.alike_foldl_absorb reports _
  · have anonymous := reports.map fun report => (report.record first).anonymous
    rw [Proceedings.records, Proceedings.records, List.map_map, List.map_map]
    exact anonymous
  · rw [firstAccount.rows_after keeps, secondAccount.rows_after keeps]
    refine RowTable.applyAll_interleaving (Account.separates distinct) parts minded ?_ (.refl _)
    intro spoken member other inside different same
    exact different (List.inj_on_of_nodup_map apart (firstAccount.describe.marked other inside)
      (firstAccount.describe.marked spoken member) same)
  · rintro (⟨firstQuiet, secondQuiet⟩ | cacheKeeps)
    · simp only [Session.logged, firstQuiet] at firstSaved
      simp only [Session.logged, secondQuiet] at secondSaved
      rw [show afterFirst.tree = afterSecond.tree from
        (Prod.mk.inj (firstSaved.symm.trans secondSaved)).2]
    · obtain ⟨firstSound, firstLinks⟩ :=
        first.logged_spec (firstAccount.proceedings.records first) cacheKeeps.sound
      obtain ⟨secondSound, secondLinks⟩ :=
        second.logged_spec (secondAccount.proceedings.records second) cacheKeeps.sound
      have firstLoaded := Ledger.save_spec (cacheKeeps.of_sameLinks firstSound firstLinks) firstSaved
      have secondLoaded :=
        Ledger.save_spec (cacheKeeps.of_sameLinks secondSound secondLinks) secondSaved
      rw [firstLoaded.1, secondLoaded.1]

end Ingestion

/-! ## Two files in turns -/

namespace Small

open Ingestion

/-- Two files, and no cache. -/
def pair : World RowTable :=
  ⟨tree [("A.java", "class A"), ("B.java", "class B")] none, .empty, []⟩

def other : Path :=
  ⟨"/r/B.java"⟩

/-- The settings of batches. -/
def batched (batchSize concurrency : Nat) : Configuration :=
  { configuration with batchSize, concurrency }

/-- The two files were indexed. -/
def indexedPair (schedule : List Nat) (batchSize concurrency : Nat) : World RowTable :=
  ((run (services embed) (session schedule) (batched batchSize concurrency)).run pair).2

/-- A run finds both files, and no cache. -/
theorem found_pair : resolveRoot configuration pair.tree = .ok ⟨"/r"⟩ ∧
    (discovery (services embed) configuration).run pair.tree ⟨"/r"⟩ = .ok [file, other] ∧
    Ledger.load pair.tree configuration.cachePath = .ok .empty := by
  have rooted : pair.tree.find ⟨"/r"⟩ = .ok (["r"], .directory 5000) := by decide +kernel
  exact ⟨by decide +kernel, Discovery.run_of_collect rooted (by decide +kernel) (by decide +kernel),
    by decide +kernel⟩

/-- What the work on the two files comes to. -/
def worked (schedule : List Nat) (batchSize concurrency : Nat) : Progress × World RowTable :=
  runBatches (services embed) (session schedule) (batched batchSize concurrency) ⟨"/r"⟩
    (blocksOf (batchSize - 1) [file, other]).zipIdx ⟨RunSummary.start 2, .empty⟩ pair

theorem run_pair (schedule : List Nat) (batchSize concurrency : Nat)
    (valid : (batched batchSize concurrency).validate = .ok ())
    (saved : ((worked schedule batchSize concurrency).1.ledger.save configuration.cachePath
      (worked schedule batchSize concurrency).2.tree).1 = .ok ()) :
    (run (services embed) (session schedule) (batched batchSize concurrency)).run pair =
      (.ok (worked schedule batchSize concurrency).1.summary,
        indexedPair schedule batchSize concurrency) := by
  rcases found_pair with ⟨resolved, discovered, loaded⟩
  rw [indexedPair]
  refine eq_mk_snd ?_
  rw [run_of_discovered valid rfl loaded resolved discovered rfl]
  exact congrArg (Except.map _) saved

/-- The two files come to the same one after the other and in turns. -/
theorem schedules_agree_pair :
    SameHarvest id configuration.cachePath (session []) (session [1, 0, 1, 0, 1, 1]) pair
      (indexedPair [] 1 1) (indexedPair [1, 0, 1, 0, 1, 1] 2 2)
      (worked [] 1 1).1.summary (worked [1, 0, 1, 0, 1, 1] 2 2).1.summary := by
  have inOrder := run_pair [] 1 1 (by decide) (by decide +kernel)
  have inTurns := run_pair [1, 0, 1, 0, 1, 1] 2 2 (by decide) (by decide +kernel)
  have readable : pair.tree.source? file = some "class A" := by decide +kernel
  have otherReadable : pair.tree.source? other = some "class B" := by decide +kernel
  have distinct : NoCollision
      {encoding | encoding ∈ encodings file "class A" ++ encodings other "class B"} :=
    noCollision_of_nodup (by decide +kernel)
  refine schedules_agree inOrder inTurns found_pair.1 found_pair.2.1 (by decide +kernel)
    (Services.steady_ofTable _ _ _ _ _) (Services.keepsRows_ofTable _ _ _ _ _)
    (fun _ _ _ => ⟨rfl, rfl⟩) (fun _ _ _ => ⟨rfl, rfl⟩) distinct fun path member => ?_
  rcases List.mem_pair.mp member with rfl | rfl
  · exact meets readable fun _ inside => List.mem_append_left _ inside
  · exact meets otherReadable fun _ inside => List.mem_append_right _ inside

end Small

end SourceHarvest
