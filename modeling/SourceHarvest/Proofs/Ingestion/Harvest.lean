import SourceHarvest.Proofs.Discovery
import SourceHarvest.Proofs.Fingerprint.Persistence
import SourceHarvest.Proofs.VectorStore.Rows
import Mathlib.Algebra.Order.BigOperators.Group.List
import Mathlib.Algebra.Order.Ring.Nat

/-!
# What a run leaves behind

After a run that succeeds, the cache holds the fingerprints from before and those of the files
that were processed.  The rows of a file are those from before, changed by what was done on behalf
of that file and of no other, as long as the relative paths of the files tell them apart.
-/

namespace SourceHarvest

/-! ## Sums over reports -/

/-- The failure that a report tells of. -/
def FileReport.failure? (report : FileReport) : Option FileFailure :=
  match report.outcome with
  | .failed status message => some ⟨report.path, status, message⟩
  | _ => none

/-- The number of chunks that a report tells of. -/
def FileReport.chunkCount (report : FileReport) : Nat :=
  match report.outcome with
  | .processed chunkCount => chunkCount
  | _ => 0

/-- The sums over reports, one by one. -/
theorem RunSummary.foldl_absorb (reports : List FileReport) (summary : RunSummary) :
    reports.foldl absorb summary =
      { filesDiscovered := summary.filesDiscovered
        processed := summary.processed + reports.countP (·.outcome matches .processed _)
        skipped := summary.skipped + reports.countP (·.outcome matches .skipped)
        errors := summary.errors + (reports.filterMap FileReport.failure?).length
        chunksCreated := summary.chunksCreated + (reports.map FileReport.chunkCount).sum
        chunksDropped := summary.chunksDropped + (reports.map FileReport.dropped).sum
        failures := summary.failures ++ reports.filterMap FileReport.failure? } := by
  induction reports generalizing summary with
  | nil => simp
  | cons report rest inductionHypothesis =>
      rw [List.foldl_cons, inductionHypothesis]
      rcases report with ⟨path, outcome, fingerprint, dropped⟩
      cases outcome <;>
        simp [absorb, FileReport.failure?, FileReport.chunkCount, List.filterMap_cons] <;> omega

theorem FileTree.le_of_millis? {tree : FileTree} {path : Path} {millis : Nat}
    (dated : tree.millis? path = some millis) : millis ≤ Json.greatestWord := by
  rw [millis?] at dated
  split at dated
  · split at dated
    · cases dated
    · cases dated
      exact Nat.le_of_lt_succ (Nat.mod_lt _ (by decide))
  · cases dated

/-- Adding records to a log leaves the links of a tree alone. -/
theorem Session.logged_spec (session : Session) (records : List OutcomeRecord) {tree : FileTree}
    (sound : tree.Sound) : (session.logged records tree).Sound ∧
      FileTree.SameLinks tree (session.logged records tree) := by
  rw [logged]
  cases session.log with
  | none => exact ⟨sound, .refl tree⟩
  | some path =>
      simp only
      induction records generalizing tree with
      | nil => exact ⟨sound, .refl tree⟩
      | cons record rest inductionHypothesis =>
          have added : (OutcomeLog.add path tree record).Sound ∧
              FileTree.SameLinks tree (OutcomeLog.add path tree record) := by
            rw [OutcomeLog.add]
            split
            · rename_i longer appended
              rcases sound.append_spec appended with ⟨after, standing, ways⟩
              exact ⟨after, standing, fun location target => by rw [ways location]⟩
            · exact ⟨sound, .refl tree⟩
          rcases inductionHypothesis added.1 with ⟨further, links⟩
          exact ⟨further, added.2.trans links⟩

namespace Ledger

/-- A ledger that can be saved is loaded again as it is. -/
theorem load_of_save {ledger : Ledger} {cachePath : Path} {tree after : FileTree}
    (keeps : tree.Keeps cachePath) (ordered : ledger.Ordered) (fits : ledger.Fits)
    (saved : ledger.save cachePath tree = (.ok (), after)) :
    load after cachePath = .ok ledger ∧ after.Sound ∧ FileTree.SameLinks tree after := by
  have spec := save_spec keeps saved
  rwa [decode_encode ordered fits] at spec

theorem Ordered.absorbAll {ledger : Ledger} (ordered : ledger.Ordered) (reports : List FileReport) :
    (ledger.absorbAll reports).Ordered := by
  induction reports generalizing ledger with
  | nil => exact ordered
  | cons report rest inductionHypothesis =>
      apply inductionHypothesis
      rw [absorb]
      split
      · exact ordered.record _ _
      · exact ordered

theorem Fits.absorbAll {ledger : Ledger} (fits : ledger.Fits) {reports : List FileReport}
    (fit : ∀ report ∈ reports, ∀ fingerprint ∈ report.fingerprint, fingerprint.Fits) :
    (ledger.absorbAll reports).Fits := by
  induction reports generalizing ledger with
  | nil => exact fits
  | cons report rest inductionHypothesis =>
      refine inductionHypothesis ?_ fun other member => fit other (List.mem_cons_of_mem _ member)
      rw [absorb]
      split
      · rename_i fingerprint given
        exact fits.record _ (fit report List.mem_cons_self fingerprint given)
      · exact fits

end Ledger

namespace FileJob

variable {σ : Type} {services : Services σ} {configuration : Configuration} {tree : FileTree}
  {ledger : Ledger} {root path : Path} {met : Set (List UInt8)}

/-- The encodings under the ids of the chunks of a file, as the file is in a tree, were all met. -/
def Meets (services : Services σ) (configuration : Configuration) (tree : FileTree)
    (root path : Path) (met : Set (List UInt8)) : Prop :=
  ∀ source parsed, tree.source? path = some source → services.parse path source = .ok parsed →
    ∀ encoding ∈ BoundedChunks.encodings configuration path (relativePath root path) parsed,
      encoding ∈ met

/-- What comes of a file was cut from its parsed text. -/
theorem exists_ofParsed_of_bounded? {bounded : BoundedChunks}
    (produced : bounded? services configuration tree root path = some bounded) :
    ∃ source parsed, tree.source? path = some source ∧ services.parse path source = .ok parsed ∧
      BoundedChunks.ofParsed configuration path (relativePath root path) parsed = .ok bounded := by
  simp only [bounded?, Option.bind_eq_bind, Option.bind_eq_some_iff] at produced
  rcases produced with ⟨source, readable, parsed, grammar, cut⟩
  cases answered : services.parse path source with
  | error failure =>
      rw [answered] at grammar
      cases grammar
  | ok tree =>
      rw [answered] at grammar
      cases grammar
      cases made : BoundedChunks.ofParsed configuration path (relativePath root path) parsed with
      | error failure =>
          rw [made] at cut
          cases cut
      | ok chunks =>
          rw [made] at cut
          cases cut
          exact ⟨source, parsed, readable, answered, made⟩

/-- The chunks of a file bear its paths. -/
theorem bears_of_bounded? {bounded : BoundedChunks}
    (produced : bounded? services configuration tree root path = some bounded) :
    ∀ chunk ∈ bounded.chunks, chunk.metadata.Bears path (relativePath root path) := by
  obtain ⟨source, parsed, readable, answered, made⟩ := exists_ofParsed_of_bounded? produced
  intro chunk inside
  obtain ⟨_, _, _, _, bears, _⟩ := BoundedChunks.exists_unit_of_ofParsed made inside
  exact bears

/-- The chunks of a file are of its relative path and have ids that tell them apart. -/
theorem bounded?_spec (distinct : NoCollision met)
    (meets : Meets services configuration tree root path met) {bounded : BoundedChunks}
    (produced : bounded? services configuration tree root path = some bounded) :
    (∀ chunk ∈ bounded.chunks,
      chunk.metadata.relativePath = relativePath root path ∧ chunk.Coined met) ∧
      (bounded.chunks.map (·.id)).Nodup := by
  obtain ⟨source, parsed, readable, answered, made⟩ := exists_ofParsed_of_bounded? produced
  rcases BoundedChunks.ofParsed_spec made distinct (meets source parsed readable answered) with
    ⟨own, different⟩
  exact ⟨fun chunk inside => ⟨(own chunk inside).1.relativePath, (own chunk inside).2⟩, different⟩

/-- Whatever becomes of a file, what happens to the store concerns this file. -/
theorem Course.concerns {report : FileReport} {effects : List StoreEffect}
    (course : Course services configuration tree ledger root path report effects)
    (distinct : NoCollision met) (meets : Meets services configuration tree root path met) :
    ∀ effect ∈ effects, effect.Concerns (Chunk.Coined met) (relativePath root path) := by
  intro effect member
  rcases course.effect_cases member with ⟨_, rfl⟩ | ⟨bounded, embeddings, produced, _, rfl⟩
  · rfl
  · exact (bounded?_spec distinct meets produced).1

/-- The rows of a file after its chunks were stored: the new ones, and the old ones that were
neither dropped nor replaced. -/
theorem ofFile_applyAll_replacement {chunks : List Chunk} {embeddings : List Embedding}
    {relativePath : String} (paired : embeddings.length = chunks.length)
    (different : (chunks.map (·.id)).Nodup)
    (own : ∀ chunk ∈ chunks, chunk.metadata.relativePath = relativePath) (needed : Bool)
    (table : RowTable) :
    (table.applyAll (replacement needed relativePath chunks embeddings)).ofFile relativePath =
      (RowTable.rowsOf chunks embeddings).reverse ++
        if needed then []
        else (table.ofFile relativePath).filter fun row => row.chunk.id ∉ chunks.map (·.id) := by
  have stored (table : RowTable) :
      (table.applyAll (if chunks.isEmpty then [] else [.stored chunks embeddings])).ofFile
        relativePath = (RowTable.rowsOf chunks embeddings).reverse ++
          (table.ofFile relativePath).filter fun row => row.chunk.id ∉ chunks.map (·.id) := by
    split
    · rename_i none
      rw [List.isEmpty_iff.mp none]
      simp [RowTable.rowsOf]
    · simp only [RowTable.applyAll_cons, RowTable.applyAll_nil, RowTable.apply, RowTable.ofFile,
        RowTable.rows_upsert paired different, List.filter_append, List.filter_filter]
      congr 1
      · rw [List.filter_eq_self]
        intro row member
        simpa using own row.chunk (RowTable.chunk_mem_of_mem_rowsOf (List.mem_reverse.mp member))
      · simp only [Bool.and_comm]
  rw [replacement, RowTable.applyAll_append, stored]
  cases needed with
  | false => rfl
  | true =>
      simp only [if_true, RowTable.applyAll_cons, RowTable.applyAll_nil, RowTable.apply,
        RowTable.ofFile_deleteFile_self, List.filter_nil]

end FileJob

/-- In a sound tree every run that succeeds has an account. -/
theorem Ingestion.exists_account_of_sound {σ : Type} {services : Services σ} {session : Session}
    {configuration : Configuration} {before after : World σ} {summary : RunSummary}
    (sound : before.tree.Sound)
    (ran : (run services session configuration).run before = (.ok summary, after)) :
    ∃ account : Account services session configuration before after, account.summary = summary := by
  exact exists_account ran fun _ _ _ found => Discovery.nodup_of_run sound found

/-- The sums over the proceedings list the files that failed, and why. -/
theorem Ingestion.Proceedings.Describe.mem_failures_iff {σ : Type} {proceedings : Proceedings}
    {services : Services σ} {session : Session} {configuration : Configuration} {ledger : Ledger}
    {root : Path} {files : List Path} {before after : World σ}
    (describe : proceedings.Describe services session configuration ledger root files before after)
    {path : Path} {status : Status} {message : String} :
    ⟨path, status, message⟩ ∈
        (proceedings.reports.foldl RunSummary.absorb (RunSummary.start files.length)).failures ↔
      path ∈ files ∧ (proceedings.report path).outcome = .failed status message := by
  rw [RunSummary.foldl_absorb, Proceedings.reports]
  simp only [RunSummary.start, List.nil_append, List.mem_filterMap, List.mem_map,
    describe.order.mem_iff]
  constructor
  · rintro ⟨report, ⟨other, member, rfl⟩, listed⟩
    have named := describe.report_path member
    rw [FileReport.failure?] at listed
    split at listed
    · rename_i failed
      cases listed
      rw [named]
      exact ⟨member, failed⟩
    · cases listed
  · rintro ⟨member, failed⟩
    refine ⟨_, ⟨path, member, rfl⟩, ?_⟩
    simp only [FileReport.failure?, failed, describe.report_path member]

namespace Ingestion.Account

open FileJob

variable {σ : Type} {services : Services σ} {session : Session} {configuration : Configuration}
  {before after : World σ} (account : Account services session configuration before after)

/-- What became of a file. -/
theorem course {path : Path} (member : path ∈ account.files) :
    Course services configuration (account.proceedings.seen path) account.ledger account.root path
      (account.proceedings.report path) (effects (account.proceedings.dialogue path)) :=
  account.describe.course member

/-- Without a log all files see the tree as it was before. -/
theorem seen_eq (quiet : session.log = none) {path : Path} (member : path ∈ account.files) :
    account.proceedings.seen path = before.tree := by
  rcases account.describe.seen path member with ⟨count, seen⟩
  rw [seen, Session.logged, quiet]

/-- The files of a run lie below its root, where that is a path of plain names. -/
theorem exists_below (sound : before.tree.Sound) {around : Location}
    (plain : ∀ name ∈ around, Path.IsPlain name) (rooted : account.root = Path.ofNames around)
    {path : Path} (member : path ∈ account.files) :
    ∃ rest content time, path = Path.ofNames (around ++ rest) ∧ rest ≠ [] ∧
      before.tree.get? (around ++ rest) = some (.file content time) := by
  rcases Discovery.run_spec sound account.discovered with ⟨location, _, found, _, files⟩
  have canonical := canonicalize_of_resolveRoot account.resolved
  rw [rooted] at canonical found
  obtain rfl := sound.location_eq_of_canonicalize plain canonical found
  obtain ⟨rest, content, time, nonempty, same, held⟩ := files path member
  exact ⟨rest, content, time, same, nonempty, held⟩

/-! ## The sums -/

/-- The run lists the files that failed, and why. -/
theorem mem_failures_iff {path : Path} {status : Status} {message : String} :
    ⟨path, status, message⟩ ∈ account.summary.failures ↔
      path ∈ account.files ∧
        (account.proceedings.report path).outcome = .failed status message := by
  rw [account.summed]
  exact account.describe.mem_failures_iff

/-- All files were processed if as many were processed as there are. -/
theorem processed_of_summary (all : account.summary.processed = account.files.length) {path : Path}
    (member : path ∈ account.files) :
    ∃ count, (account.proceedings.report path).outcome = .processed count := by
  have order := account.describe.order
  rw [account.summed, RunSummary.foldl_absorb, Proceedings.reports, ← order.length_eq,
    ← List.length_map account.proceedings.report] at all
  simp only [RunSummary.start, Nat.zero_add] at all
  have each := List.countP_eq_length.mp all _ (List.mem_map_of_mem (order.mem_iff.mpr member))
  split at each
  · exact ⟨_, ‹_›⟩
  · cases each

/-! ## The fingerprints afterwards -/

/-- The fingerprints that the run has at its end, and saves. -/
def finalLedger : Ledger :=
  account.ledger.absorbAll account.proceedings.reports

/-- The counts of chunks have 64 bits. -/
def Counted : Prop :=
  ∀ path ∈ account.files, ∀ count,
    (account.proceedings.report path).outcome = .processed count → count ≤ Json.greatestWord

/-- If the count of all chunks has 64 bits, so have those of each file. -/
theorem counted_of_summary (limit : account.summary.chunksCreated ≤ Json.greatestWord) :
    account.Counted := by
  intro path member count processed
  rw [account.summed, RunSummary.foldl_absorb, Proceedings.reports] at limit
  simp only [RunSummary.start, Nat.zero_add] at limit
  have inside := List.mem_map_of_mem (f := FileReport.chunkCount)
    (List.mem_map_of_mem (f := account.proceedings.report)
      (account.describe.order.mem_iff.mpr member))
  have single := List.le_sum_of_mem inside
  simp only [FileReport.chunkCount, processed] at single
  exact single.trans limit

theorem get?_finalLedger (path : Path) :
    account.finalLedger.get? path =
      if path ∈ account.files then
        (account.proceedings.report path).fingerprint.or (account.ledger.get? path)
      else account.ledger.get? path :=
  account.describe.get?_absorbAll account.distinct account.ledger path

theorem fits_finalLedger (counted : account.Counted) : account.finalLedger.Fits := by
  refine (Ledger.fits_of_load account.loaded).absorbAll fun report member fingerprint given => ?_
  rcases List.mem_map.mp member with ⟨path, inside, rfl⟩
  have listed := account.describe.order.mem_iff.mp inside
  have course := account.course listed
  obtain ⟨count, processed⟩ := course.exists_processed_of_fingerprint given
  obtain ⟨_, _, _, _, dated, _, _, _, _, marked, _⟩ := course.of_processed processed
  cases marked.symm.trans given
  exact ⟨FileTree.le_of_millis? dated, counted path listed count processed⟩

/-- The run leaves its fingerprints in the cache, and all links alone. -/
theorem load_after (keeps : before.tree.Keeps configuration.cachePath) (counted : account.Counted) :
    Ledger.load after.tree configuration.cachePath = .ok account.finalLedger ∧ after.tree.Sound ∧
      FileTree.SameLinks before.tree after.tree := by
  rcases session.logged_spec (account.proceedings.records session) keeps.sound with ⟨sound, links⟩
  obtain ⟨loaded, afterSound, further⟩ := Ledger.load_of_save (keeps.of_sameLinks sound links)
    ((Ledger.ordered_of_load account.loaded).absorbAll _) (account.fits_finalLedger counted)
    account.saved
  exact ⟨loaded, afterSound, links.trans further⟩

/-! ## The rows afterwards -/

section Rows

variable {rows : σ → RowTable} (keeps : services.KeepsRows rows) {met : Set (List UInt8)}

/-- The encodings under the ids of all chunks of the run were met. -/
def Meets (met : Set (List UInt8)) : Prop :=
  ∀ path ∈ account.files,
    FileJob.Meets services configuration (account.proceedings.seen path) account.root path met

include keeps in
/-- The rows afterwards are what was done to those from before. -/
theorem rows_after : rows after.remote =
    (rows before.remote).applyAll (effects (account.proceedings.history.map (·.2))) := by
  rw [keeps.rows_hearsAll account.describe.hears, keeps.connect]

theorem minded (distinct : NoCollision met) (meets : account.Meets met) :
    RowTable.Minded (Chunk.Coined met) (relativePath account.root) account.proceedings.history := by
  intro path effect done
  by_cases member : path ∈ account.files
  · exact (account.course member).concerns distinct (meets path member) effect done
  · have silent : spokenBy path account.proceedings.history = [] := spokenBy_eq_nil
      fun spoken inside same => member (same ▸ account.describe.marked spoken inside)
    rw [silent] at done
    cases done

theorem separates (distinct : NoCollision met) : Separates (Chunk.Coined met) :=
  fun _ _ first second same => first.relativePath_eq distinct second same

include keeps in
/-- All rows afterwards are of chunks whose encodings were met, if those from before are. -/
theorem owned_after (distinct : NoCollision met) (meets : account.Meets met)
    (owned : (rows before.remote).Owned (Chunk.Coined met)) :
    (rows after.remote).Owned (Chunk.Coined met) := by
  rw [account.rows_after keeps]
  exact owned.applyAll_history (account.minded distinct meets)

include keeps in
/-- The rows of a file afterwards are what was done to those from before on its behalf. -/
theorem ofFile_after (distinct : NoCollision met) (meets : account.Meets met)
    (owned : (rows before.remote).Owned (Chunk.Coined met))
    (apart : (account.files.map (relativePath account.root)).Nodup) {path : Path}
    (member : path ∈ account.files) :
    (rows after.remote).ofFile (relativePath account.root path) =
      ((rows before.remote).applyAll (effects (account.proceedings.dialogue path))).ofFile
        (relativePath account.root path) := by
  rw [account.rows_after keeps]
  refine RowTable.ofFile_applyAll_history (separates distinct) owned
    (account.minded distinct meets) fun spoken inside other same => other ?_
  exact List.inj_on_of_nodup_map apart (account.describe.marked spoken inside) member same

include keeps in
/-- The rows of a file that was processed: the new ones, and the old ones that were neither dropped nor
replaced. -/
theorem ofFile_of_processed (distinct : NoCollision met) (meets : account.Meets met)
    (owned : (rows before.remote).Owned (Chunk.Coined met))
    (apart : (account.files.map (relativePath account.root)).Nodup) {path : Path}
    (member : path ∈ account.files) {count : Nat}
    (processed : (account.proceedings.report path).outcome = .processed count) :
    ∃ bounded embeddings, bounded? services configuration (account.proceedings.seen path)
        account.root path = some bounded ∧ embeddings.length = bounded.chunks.length ∧
      (rows after.remote).ofFile (relativePath account.root path) =
        (RowTable.rowsOf bounded.chunks embeddings).reverse ++
          if evicts configuration account.ledger path then []
          else ((rows before.remote).ofFile (relativePath account.root path)).filter
            fun row => row.chunk.id ∉ bounded.chunks.map (·.id) := by
  obtain ⟨_, _, bounded, embeddings, _, _, produced, paired, _, _, done⟩ :=
    (account.course member).of_processed processed
  rcases bounded?_spec distinct (meets path member) produced with ⟨own, different⟩
  refine ⟨bounded, embeddings, produced, paired, ?_⟩
  rw [account.ofFile_after keeps distinct meets owned apart member, done,
    ofFile_applyAll_replacement paired different fun chunk inside => (own chunk inside).1]

include keeps in
/-- Rows that are of no file of the run stay as they are. -/
theorem ofFile_after_outside (distinct : NoCollision met) (meets : account.Meets met)
    (owned : (rows before.remote).Owned (Chunk.Coined met)) {other : String}
    (outside : ∀ path ∈ account.files, relativePath account.root path ≠ other) :
    (rows after.remote).ofFile other = (rows before.remote).ofFile other := by
  rw [account.rows_after keeps]
  exact RowTable.ofFile_applyAll_outside (separates distinct) owned
    (account.minded distinct meets) fun spoken inside =>
      outside spoken.1 (account.describe.marked spoken inside)

end Rows

end Ingestion.Account

end SourceHarvest
