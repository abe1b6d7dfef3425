import SourceHarvest.Proofs.Ingestion.History
import SourceHarvest.Proofs.Ingestion.TableServices

/-!
# The store and the cache agree

In every state of a history, each row of the store is of a file with a fingerprint.  The rows of
such a file are the chunks that it was last processed into, as many as its fingerprint counts;
or there are none, where storing new chunks failed after the old ones were dropped, and then the
file is due again.
-/

namespace SourceHarvest

namespace Ingestion

open FileJob

variable {σ : Type}

namespace Setting

/-- The rows of a file are the chunks that it was last processed into. -/
def Exact (setting : Setting σ) (world : World σ) (latest : Path → List Chunk) (path : Path)
    (fingerprint : Fingerprint) : Prop :=
  (((setting.rows world.remote).ofFile (relativePath setting.root path)).map (·.chunk)).Perm
      (latest path) ∧
    ((setting.rows world.remote).ofFile (relativePath setting.root path)).length =
      fingerprint.chunkCount

/-- A file has no rows, and was seen to be newer than its fingerprint. -/
def Bare (setting : Setting σ) (trees : List FileTree) (world : World σ) (path : Path)
    (fingerprint : Fingerprint) : Prop :=
  (setting.rows world.remote).ofFile (relativePath setting.root path) = [] ∧
    ∃ tree ∈ trees, ∃ time, tree.millis? path = some time ∧ fingerprint.lastModified < time

/-- A file has rows only where it has a fingerprint, and what is due to the fingerprint. -/
def Accords (setting : Setting σ) (trees : List FileTree) (world : World σ)
    (latest : Path → List Chunk) (ledger : Ledger) (path : Path) : Prop :=
  ((setting.rows world.remote).ofFile (relativePath setting.root path) ≠ [] →
    ledger.has path = true) ∧
  ∀ fingerprint, ledger.get? path = some fingerprint →
    setting.Exact world latest path fingerprint ∨ setting.Bare trees world path fingerprint

/-- The invariant of histories. -/
structure Agrees (setting : Setting σ) (trees : List FileTree) (world : World σ)
    (latest : Path → List Chunk) (ledger : Ledger) : Prop where
  loaded : Ledger.load world.tree setting.cachePath = .ok ledger
  apart : world.tree.Apart setting.around setting.cachePath
  current : ∃ past, trees = past ++ [world.tree]
  owned : (setting.rows world.remote).Owned (Chunk.Coined setting.met)
  below : ∀ path, ledger.has path = true → setting.Below path
  indexed : ∀ row ∈ (setting.rows world.remote).rows, ∃ path, ledger.has path = true ∧
    row.chunk.metadata.relativePath = relativePath setting.root path
  stocked : ∀ path fingerprint, ledger.get? path = some fingerprint →
    setting.Exact world latest path fingerprint ∨ setting.Bare trees world path fingerprint

variable {setting : Setting σ} {trees : List FileTree} {world before after : World σ}
  {latest : Path → List Chunk} {ledger : Ledger}

theorem has_of_get? {path : Path} {fingerprint : Fingerprint}
    (known : ledger.get? path = some fingerprint) : ledger.has path = true := by
  rw [Ledger.has, known]
  rfl

theorem Bare.mono {path : Path} {fingerprint : Fingerprint} {more : List FileTree}
    (bare : setting.Bare trees before path fingerprint)
    (same : (setting.rows after.remote).ofFile (relativePath setting.root path) =
      (setting.rows before.remote).ofFile (relativePath setting.root path)) :
    setting.Bare (trees ++ more) after path fingerprint := by
  rcases bare with ⟨none, tree, member, newer⟩
  exact ⟨same.trans none, tree, List.mem_append_left _ member, newer⟩

/-- A file whose rows and last chunks stay the same stays in agreement. -/
theorem stocked_of_same {path : Path} {fingerprint : Fingerprint} {more : List FileTree}
    {later : Path → List Chunk}
    (stocked : setting.Exact before latest path fingerprint ∨
      setting.Bare trees before path fingerprint)
    (same : (setting.rows after.remote).ofFile (relativePath setting.root path) =
      (setting.rows before.remote).ofFile (relativePath setting.root path))
    (chunks : later path = latest path) :
    setting.Exact after later path fingerprint ∨
      setting.Bare (trees ++ more) after path fingerprint := by
  rcases stocked with exact | bare
  · left
    rw [Exact, same, chunks]
    exact exact
  · exact .inr (bare.mono same)

/-- A file below the root without a fingerprint has no rows. -/
theorem Agrees.ofFile_eq_nil (agrees : setting.Agrees trees world latest ledger) {path : Path}
    (below : setting.Below path) (unknown : ledger.has path = false) :
    (setting.rows world.remote).ofFile (relativePath setting.root path) = [] := by
  rw [List.eq_nil_iff_forall_not_mem]
  intro row member
  rcases List.mem_filter.mp member with ⟨stored, here⟩
  rcases agrees.indexed row stored with ⟨other, known, place⟩
  have same := below.eq_of_relativePath (agrees.below other known).traceable
    ((beq_iff_eq.mp here).symm.trans place)
  rw [same, known] at unknown
  cases unknown

theorem agrees_start (apart : world.tree.Apart setting.around setting.cachePath)
    (fresh : Ledger.load world.tree setting.cachePath = .ok .empty)
    (bare : setting.rows world.remote = .empty) :
    setting.Agrees [world.tree] world (fun _ => []) .empty where
  loaded := fresh
  apart := apart
  current := ⟨[], rfl⟩
  owned row member := by
    rw [bare] at member
    cases member
  below _ known := by cases known
  indexed row member := by
    rw [bare] at member
    cases member
  stocked _ _ known := by cases known

/-- What happens below the root leaves the cache and the store alone. -/
theorem Agrees.edit (agrees : setting.Agrees trees world latest ledger) {tree : FileTree}
    (sound : tree.Sound) (same : FileTree.SameAround setting.around world.tree tree) :
    setting.Agrees (trees ++ [tree]) { world with tree } latest ledger where
  loaded := (agrees.apart.load_eq same).trans agrees.loaded
  apart := agrees.apart.of_links sound same.sameLinks
  current := ⟨trees, rfl⟩
  owned := agrees.owned
  below := agrees.below
  indexed := agrees.indexed
  stocked path fingerprint known :=
    stocked_of_same (agrees.stocked path fingerprint known) rfl rfl

/-! ## Runs -/

section Run

variable {services : Services σ} {session : Session} {configuration : Configuration}
  {account : Account services session configuration before after}

theorem Agrees.ledger_eq (agrees : setting.Agrees trees before latest ledger)
    (admits : setting.Admits account) : account.ledger = ledger := by
  have loaded := account.loaded
  rw [admits.cachePath, agrees.loaded] at loaded
  exact (Except.ok.inj loaded).symm

/-- A fingerprint is never lost in a run. -/
theorem has_finalLedger {path : Path} (known : account.ledger.has path = true) :
    account.finalLedger.has path = true := by
  rw [Ledger.has, account.get?_finalLedger]
  split
  · cases (account.proceedings.report path).fingerprint with
    | none => exact known
    | some fingerprint => rfl
  · exact known

section Files

variable (agrees : setting.Agrees trees before latest ledger) (admits : setting.Admits account)
  {path : Path} (member : path ∈ account.files)

include agrees admits member

/-- The rows of a file of the run are what was done on its behalf to those from before. -/
theorem Agrees.ofFile_run :
    (setting.rows after.remote).ofFile (relativePath setting.root path) =
      ((setting.rows before.remote).applyAll (effects (account.proceedings.dialogue path))).ofFile
        (relativePath setting.root path) := by
  rw [← admits.root]
  exact account.ofFile_after admits.keeps setting.distinct admits.meets agrees.owned
    (admits.apart agrees.apart.sound) member

/-- A file for which nothing was done is left as it was. -/
theorem Agrees.accords_of_untouched
    (unmarked : (account.proceedings.report path).fingerprint = none)
    (silent : effects (account.proceedings.dialogue path) = [])
    (unprocessed : ∀ count, (account.proceedings.report path).outcome ≠ .processed count) :
    setting.Accords (trees ++ account.trees) after (account.latest latest) account.finalLedger
      path := by
  obtain rfl := agrees.ledger_eq admits
  have rowsAfter := agrees.ofFile_run admits member
  rw [silent, RowTable.applyAll_nil] at rowsAfter
  constructor
  · intro filled
    cases had : account.ledger.has path with
    | true => exact has_finalLedger had
    | false =>
        rw [rowsAfter, agrees.ofFile_eq_nil (admits.below agrees.apart.sound member) had] at filled
        exact absurd rfl filled
  · intro fingerprint found
    rw [account.get?_finalLedger, if_pos member, unmarked, Option.none_or] at found
    exact stocked_of_same (agrees.stocked path fingerprint found) rowsAfter
      (account.latest_unprocessed unprocessed latest)

/-- A file that failed when its old chunks were gone has no rows, and was newer than its fingerprint. -/
theorem Agrees.accords_of_dropped
    (due : configuration.force = true ∨
      account.ledger.outdated (account.proceedings.seen path) path = true)
    (unmarked : (account.proceedings.report path).fingerprint = none)
    (dated : ((account.proceedings.seen path).millis? path).isSome)
    (dropped : effects (account.proceedings.dialogue path) =
      [.evicted (relativePath account.root path)]) :
    setting.Accords (trees ++ account.trees) after (account.latest latest) account.finalLedger
      path := by
  have gone : (setting.rows after.remote).ofFile (relativePath setting.root path) = [] := by
    rw [agrees.ofFile_run admits member, dropped, admits.root]
    exact RowTable.ofFile_deleteFile_self _ _
  refine ⟨fun filled => absurd gone filled, fun fingerprint found => .inr ⟨gone, _,
    List.mem_append_right _ (account.seen_mem_trees member), ?_⟩⟩
  rw [account.get?_finalLedger, if_pos member, unmarked, Option.none_or] at found
  obtain ⟨time, dated⟩ := Option.isSome_iff_exists.mp dated
  refine ⟨time, dated, ?_⟩
  rcases due with forced | outdated
  · rw [admits.unforced] at forced
    cases forced
  · simpa [Ledger.outdated, found, dated] using outdated

/-- A file that was processed has the rows of its chunks and no others. -/
theorem Agrees.accords_of_processed {count : Nat}
    (processed : (account.proceedings.report path).outcome = .processed count) :
    setting.Accords (trees ++ account.trees) after (account.latest latest) account.finalLedger
      path := by
  obtain rfl := agrees.ledger_eq admits
  obtain ⟨bounded, embeddings, produced, paired, stored⟩ := account.ofFile_of_processed admits.keeps
    setting.distinct admits.meets agrees.owned (admits.apart agrees.apart.sound) member processed
  obtain ⟨_, _, _, _, _, _, same, _, counted, marked, _⟩ :=
    (account.course member).of_processed processed
  cases produced.symm.trans same
  have known := account.get?_finalLedger path
  rw [if_pos member, marked, Option.some_or] at known
  refine ⟨fun _ => has_of_get? known, fun fingerprint found => .inl ?_⟩
  cases known.symm.trans found
  rw [admits.root] at stored
  -- Old rows are dropped, or there are none, since a file without a fingerprint has no rows.
  have fresh : (if evicts configuration account.ledger path then []
      else ((setting.rows before.remote).ofFile (relativePath setting.root path)).filter
        fun row => row.chunk.id ∉ bounded.chunks.map (·.id)) = [] := by
    split
    · rfl
    · rename_i kept
      have unknown : account.ledger.has path = false := by
        simpa [evicts, admits.evicting] using kept
      rw [agrees.ofFile_eq_nil (admits.below agrees.apart.sound member) unknown, List.filter_nil]
  rw [fresh, List.append_nil] at stored
  rw [Exact, stored, account.latest_processed member processed, produced, Option.map_some,
    Option.getD_some, counted]
  constructor
  · rw [List.map_reverse, RowTable.map_chunk_rowsOf paired]
    exact List.reverse_perm _
  · have length := congrArg List.length (RowTable.map_chunk_rowsOf paired)
    rw [List.length_reverse]
    rwa [List.length_map] at length

/-- What a run leaves of one of its files is in accord. -/
theorem Agrees.accords :
    setting.Accords (trees ++ account.trees) after (account.latest latest) account.finalLedger
      path := by
  have course := account.course member
  cases outcome : (account.proceedings.report path).outcome with
  | skipped =>
      obtain ⟨unmarked, silent⟩ := course.of_skipped outcome
      exact agrees.accords_of_untouched admits member unmarked silent fun _ processed => by
        cases outcome.symm.trans processed
  | processed count => exact agrees.accords_of_processed admits member outcome
  | failed status message =>
      obtain ⟨due, unmarked, silent | ⟨dated, _, dropped⟩⟩ := course.of_failed outcome
      · exact agrees.accords_of_untouched admits member unmarked silent fun _ processed => by
          cases outcome.symm.trans processed
      · exact agrees.accords_of_dropped admits member due unmarked dated dropped

end Files

/-- What a run leaves of the other files is what was there before. -/
theorem Agrees.run_outside (agrees : setting.Agrees trees before latest ledger)
    (admits : setting.Admits account) {relativePath : String}
    (outside : ∀ path ∈ account.files, FileJob.relativePath setting.root path ≠ relativePath) :
    (setting.rows after.remote).ofFile relativePath =
      (setting.rows before.remote).ofFile relativePath :=
  account.ofFile_after_outside admits.keeps setting.distinct admits.meets agrees.owned
    (by rwa [admits.root])

/-- A run keeps the store and the cache in agreement. -/
theorem Agrees.run (agrees : setting.Agrees trees before latest ledger)
    (admits : setting.Admits account) :
    setting.Agrees (trees ++ account.trees) after (account.latest latest) account.finalLedger := by
  have same := agrees.ledger_eq admits
  subst same
  have keeps := agrees.apart.keeps
  rw [← admits.cachePath] at keeps
  rcases account.load_after keeps admits.counted with ⟨loaded, sound, links⟩
  have known := account.get?_finalLedger
  have below (path : Path) (had : account.finalLedger.has path = true) : setting.Below path := by
    by_cases member : path ∈ account.files
    · exact admits.below agrees.apart.sound member
    · refine agrees.below path ?_
      rwa [Ledger.has, known, if_neg member] at had
  exact
    { loaded := admits.cachePath ▸ loaded
      apart := agrees.apart.of_links sound (links.around _)
      current := ⟨_, (List.append_assoc _ _ _).symm⟩
      owned := account.owned_after admits.keeps setting.distinct admits.meets agrees.owned
      below := below
      indexed := by
        intro row member
        by_cases listed : ∃ path ∈ account.files,
            relativePath setting.root path = row.chunk.metadata.relativePath
        · rcases listed with ⟨path, inside, here⟩
          refine ⟨path, (agrees.accords admits inside).1 ?_, here.symm⟩
          exact List.ne_nil_of_mem (List.mem_filter.mpr ⟨member, by simpa using here.symm⟩)
        · have unlisted (path : Path) (inside : path ∈ account.files) :
              relativePath setting.root path ≠ row.chunk.metadata.relativePath := fun here =>
            listed ⟨path, inside, here⟩
          have unchanged := agrees.run_outside admits unlisted
          have stored : row ∈ (setting.rows after.remote).ofFile row.chunk.metadata.relativePath :=
            List.mem_filter.mpr ⟨member, by simp⟩
          rw [unchanged] at stored
          rcases agrees.indexed row (List.mem_filter.mp stored).1 with ⟨path, had, here⟩
          exact ⟨path, has_finalLedger had, here⟩
      stocked := by
        intro path fingerprint found
        by_cases member : path ∈ account.files
        · exact (agrees.accords admits member).2 fingerprint found
        · have place := below path (has_of_get? found)
          rw [known, if_neg member] at found
          refine stocked_of_same (agrees.stocked path fingerprint found) ?_
            (account.latest_outside member latest)
          apply agrees.run_outside admits
          intro other inside equal
          have file := admits.below agrees.apart.sound inside
          exact member (file.eq_of_relativePath place.traceable equal ▸ inside) }

end Run

/-! ## Forgetting -/

/-- Forgetting a file keeps the store and the cache in agreement. -/
theorem Agrees.forget (agrees : setting.Agrees trees before latest ledger) {services : Services σ}
    {configuration : Configuration} {path : Path} {had : Bool}
    (cachePath : configuration.cachePath = setting.cachePath)
    (root : standingRoot configuration before.tree = setting.root)
    (keeps : services.KeepsRows setting.rows) (unescaped : setting.Unescaped before.tree)
    (traceable : setting.Traceable path)
    (ran : (Ingestion.forget services configuration path).run before = (.ok had, after)) :
    ∃ remaining, setting.Agrees (trees ++ [after.tree]) after latest remaining := by
  rcases forget_eq_ok ran with ⟨known, tracked, followed, loaded, _, deleted, saved⟩
  rw [root] at deleted followed
  rw [cachePath] at loaded saved
  obtain rfl := Except.ok.inj (agrees.loaded.symm.trans loaded)
  have place : setting.Traceable tracked :=
    followed ▸ traceable_trackedPath agrees.apart.sound unescaped traceable
  obtain ⟨loadedAfter, sound, links⟩ := Ledger.load_of_save agrees.apart.keeps
    ((Ledger.ordered_of_load agrees.loaded).remove tracked)
    ((Ledger.fits_of_load agrees.loaded).remove tracked) saved
  have rowsAfter := keeps.rows_of_deleteFile deleted
  refine ⟨ledger.remove tracked, ?_⟩
  exact
    { loaded := loadedAfter
      apart := agrees.apart.of_links sound (links.around _)
      current := ⟨trees, rfl⟩
      owned := rowsAfter ▸ agrees.owned.deleteFile _
      below := fun other known => agrees.below other (Ledger.has_of_has_remove known)
      indexed := by
        intro row member
        rw [rowsAfter] at member
        rcases List.mem_filter.mp member with ⟨stored, other⟩
        rcases agrees.indexed row stored with ⟨path, known, here⟩
        refine ⟨path, ?_, here⟩
        have distinct : path ≠ tracked := by
          rintro rfl
          simp [here] at other
        rwa [Ledger.has_remove_other distinct]
      stocked := by
        intro other fingerprint found
        rcases Ledger.get?_of_get?_remove found with ⟨distinct, known⟩
        refine stocked_of_same (agrees.stocked other fingerprint known) ?_ rfl
        rw [rowsAfter, RowTable.ofFile_deleteFile, if_neg]
        intro same
        exact distinct ((agrees.below other (has_of_get? known)).eq_of_relativePath place same.symm) }

/-! ## Whole histories -/

/-- The invariant holds in every state of a history. -/
theorem History.agrees (history : setting.History trees world latest) :
    ∃ ledger, setting.Agrees trees world latest ledger := by
  induction history with
  | start world apart fresh bare => exact ⟨.empty, agrees_start apart fresh bare⟩
  | edit _ tree sound same inductionHypothesis =>
      rcases inductionHypothesis with ⟨ledger, agrees⟩
      exact ⟨ledger, agrees.edit sound same⟩
  | run _ account admits inductionHypothesis =>
      rcases inductionHypothesis with ⟨ledger, agrees⟩
      exact ⟨account.finalLedger, agrees.run admits⟩
  | forget _ cachePath root keeps unescaped traceable ran inductionHypothesis =>
      rcases inductionHypothesis with ⟨ledger, agrees⟩
      exact agrees.forget cachePath root keeps unescaped traceable ran

/-- A file that was seen newer than its fingerprint stays due while no file goes back in time. -/
theorem Agrees.outdated_of_bare (agrees : setting.Agrees trees world latest ledger)
    (ages : trees.Pairwise setting.Ages) {path : Path} {fingerprint : Fingerprint}
    (known : ledger.get? path = some fingerprint)
    (bare : setting.Bare trees world path fingerprint) :
    ledger.outdated world.tree path = true := by
  rcases bare with ⟨_, tree, member, time, dated, newer⟩
  rcases agrees.current with ⟨past, rfl⟩
  rcases agrees.below path (has_of_get? known) with ⟨rest, rfl, _⟩
  rw [Ledger.outdated, known]
  cases present : world.tree.millis? (Path.ofNames (setting.around ++ rest)) with
  | none => rfl
  | some current =>
      have later : time ≤ current := by
        rcases List.mem_append.mp member with earlier | last
        · exact (List.pairwise_append.mp ages).2.2 tree earlier world.tree (by simp) rest time
            current dated present
        · obtain rfl := List.mem_singleton.mp last
          rw [dated] at present
          exact Nat.le_of_eq (Option.some.inj present)
      exact decide_eq_true (Nat.lt_of_lt_of_le newer later)

/-- Each row is of a file with a fingerprint, and each file with a fingerprint has exactly the
chunks that it was last processed into, or none and is due. -/
def Consistent (setting : Setting σ) (world : World σ) (latest : Path → List Chunk)
    (ledger : Ledger) : Prop :=
  (∀ row ∈ (setting.rows world.remote).rows, ∃ path, ledger.has path = true ∧
    row.chunk.metadata.relativePath = relativePath setting.root path) ∧
  ∀ path fingerprint, ledger.get? path = some fingerprint →
    setting.Exact world latest path fingerprint ∨
      (setting.rows world.remote).ofFile (relativePath setting.root path) = [] ∧
        ledger.outdated world.tree path = true

end Setting

end Ingestion

/-! ## A short history -/

namespace Small

open Ingestion

/-- The files are in `/r`, the cache is in `/c`, and one file was met. -/
def setting : Setting RowTable where
  around := ["r"]
  cachePath := configuration.cachePath
  rows := id
  met := {encoding | encoding ∈ encodings file "class A"}
  plain := by decide +kernel
  distinct := noCollision_of_nodup (by decide +kernel)

/-- What the first run over one file is asked for in a history. -/
theorem admits_fresh (account : Account (services embed) (session []) configuration fresh indexed)
    (summary : account.summary = ⟨1, 1, 0, 0, 1, 0, []⟩) : setting.Admits account := by
  rcases files_eq account (by decide +kernel) (by decide +kernel) with ⟨root, files⟩
  refine
    { unforced := rfl
      evicting := rfl
      cachePath := rfl
      root := root.trans (by decide +kernel)
      keeps := Services.keepsRows_ofTable _ _ _ _ _
      unescaped := ?_
      meets := meets_of_single account root files (by decide +kernel) fun _ inside => inside
      counted := account.counted_of_summary (by rw [summary]; decide) }
  unfold Setting.Unescaped FileJob.Unescaped
  decide +kernel

end Small

end SourceHarvest
