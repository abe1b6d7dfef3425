import SourceHarvest.Proofs.Fingerprint.Reloading
import SourceHarvest.Proofs.Ingestion.SharedStore
import SourceHarvest.Proofs.Ingestion.Unforgotten
import SourceHarvest.Proofs.Path.Spelling

/-!
# Forgetting a file that is gone

Fingerprints are kept by the texts of canonical paths, rows by relative paths.  A path that is
forgotten is made canonical first, but only where it leads to an entry.  So a file that is gone can be
forgotten by half: a path that spells it in another way loses its rows and not its fingerprint.
-/

namespace SourceHarvest

namespace RowTable

/-- The rows whose chunks were cut from a file. -/
def cutFrom (table : RowTable) (file : Path) : List StoredRow :=
  table.rows.filter fun row => row.chunk.metadata.absolutePath = file

/-- The rows of a file that all bear one relative path are dropped together. -/
theorem cutFrom_deleteFile {table : RowTable} {file : Path} {relativePath : String}
    (same : ∀ row ∈ table.cutFrom file, row.chunk.metadata.relativePath = relativePath)
    (dropped : String) : (table.deleteFile dropped).cutFrom file =
      if dropped = relativePath then [] else table.cutFrom file := by
  have split : (table.deleteFile dropped).cutFrom file =
      (table.cutFrom file).filter fun row => row.chunk.metadata.relativePath != dropped := by
    simp only [cutFrom, RowTable.deleteFile, List.filter_filter, Bool.and_comm]
  rw [split]
  split
  · rename_i here
    rw [List.filter_eq_nil_iff]
    intro row member
    simp [same row member, here]
  · rename_i apart
    rw [List.filter_eq_self]
    intro row member
    simpa [same row member] using Ne.symm apart

end RowTable

namespace Ledger

/-- The file has a fingerprint in the cache. -/
def Tracks (tree : FileTree) (cachePath file : Path) : Prop :=
  ∃ ledger, load tree cachePath = .ok ledger ∧ ledger.has file = true

variable {ledger : Ledger}

theorem tracks_iff {tree : FileTree} {cachePath file : Path}
    (loaded : load tree cachePath = .ok ledger) :
    Tracks tree cachePath file ↔ ledger.has file = true := by
  constructor
  · rintro ⟨found, again, held⟩
    cases loaded.symm.trans again
    exact held
  · exact fun held => ⟨ledger, loaded, held⟩

end Ledger

namespace Ingestion

open FileJob

variable {σ : Type} {services : Services σ} {session : Session} {configuration : Configuration}
  {before after : World σ} {rows : σ → RowTable} {around : Location} {cachePath path : Path}
  {had : Bool}

/-! ## One root -/

/-- The path is that of a file below the root. -/
def LiesBelow (around : Location) (path : Path) : Prop :=
  ∃ rest, path = Path.ofNames (around ++ rest) ∧ rest ≠ [] ∧ ∀ name ∈ rest, Path.IsName name

/-- The chunk was cut from a file below the root, and bears the relative path of this file. -/
def CutBelow (around : Location) (chunk : Chunk) : Prop :=
  LiesBelow around chunk.metadata.absolutePath ∧ chunk.metadata.relativePath =
    relativePath (Path.ofNames around) chunk.metadata.absolutePath

/-- The worlds that runs over one root and forgetting make of a world with an empty store and no
cache.  In between the tree changes in any way, and the cache can get lost. -/
inductive Rooted (rows : σ → RowTable) (around : Location) (cachePath : Path) : World σ → Prop where
  | start (world : World σ) (sound : world.tree.Sound)
      (fresh : Ledger.load world.tree cachePath = .ok .empty)
      (bare : rows world.remote = .empty) : Rooted rows around cachePath world
  | edit {world : World σ} (rooted : Rooted rows around cachePath world) (tree : FileTree)
      (sound : tree.Sound) (kept : ∀ ledger, Ledger.load tree cachePath = .ok ledger →
        ledger = .empty ∨ Ledger.load world.tree cachePath = .ok ledger) :
      Rooted rows around cachePath { world with tree }
  | run {services : Services σ} {session : Session} {configuration : Configuration}
      {before after : World σ} (rooted : Rooted rows around cachePath before)
      (account : Account services session configuration before after)
      (sameCache : configuration.cachePath = cachePath)
      (sameRoot : account.root = Path.ofNames around) (keeps : services.KeepsRows rows)
      (undiverted : (session.logged (account.proceedings.records session) before.tree).Undiverted
        cachePath) :
      Rooted rows around cachePath after
  | forget {services : Services σ} {configuration : Configuration} {before after : World σ}
      {path : Path} {had : Bool} (rooted : Rooted rows around cachePath before)
      (sameCache : configuration.cachePath = cachePath) (keeps : services.KeepsRows rows)
      (undiverted : before.tree.Undiverted cachePath)
      (ran : (forget services configuration path).run before = (.ok had, after)) :
      Rooted rows around cachePath after

/-- A file that a run processed has a fingerprint. -/
theorem Account.exists_fingerprint_of_processes
    (account : Account services session configuration before after) {path : Path}
    (processes : account.Processes path) :
    ∃ fingerprint, (account.proceedings.report path).fingerprint = some fingerprint := by
  rcases processes with ⟨member, count, processed⟩
  obtain ⟨_, _, _, _, _, _, _, _, _, marked, _⟩ := (account.course member).of_processed processed
  exact ⟨_, marked⟩

section Steps

variable (plain : ∀ name ∈ around, Path.IsPlain name)

include plain in
/-- The files of a run lie below its root. -/
theorem Account.liesBelow (account : Account services session configuration before after)
    (sound : before.tree.Sound) (sameRoot : account.root = Path.ofNames around) {path : Path}
    (member : path ∈ account.files) : LiesBelow around path := by
  obtain ⟨rest, _, _, rfl, nonempty, held⟩ := account.exists_below sound plain sameRoot member
  exact ⟨rest, rfl, nonempty, fun name inside =>
    sound.named_of_get? held name (List.mem_append_right _ inside)⟩

include plain in
/-- What a run does for a file it does to the rows under the relative path of this file. -/
theorem Account.minded_cutBelow (account : Account services session configuration before after)
    (sound : before.tree.Sound) (sameRoot : account.root = Path.ofNames around) :
    RowTable.Minded (CutBelow around) (relativePath account.root) account.proceedings.history := by
  intro path effect done
  rcases List.mem_filterMap.mp done with ⟨reply, member, found⟩
  have said := mem_spokenBy_iff.mp member
  rcases Account.effect_cases said found with ⟨_, rfl⟩ | ⟨embeddings, _, rfl⟩
  · rfl
  · intro chunk inside
    have bears := Account.bears_of_mem_chunksOf inside
    refine ⟨bears.relativePath, ?_, ?_⟩
    · rw [bears.absolutePath]
      exact account.liesBelow plain sound sameRoot (account.describe.marked _ said)
    · rw [bears.relativePath, bears.absolutePath, sameRoot]

/-- All that has a fingerprint and all that has rows lies below the root. -/
structure Gathered (rows : σ → RowTable) (around : Location) (cachePath : Path) (world : World σ) :
    Prop where
  sound : world.tree.Sound
  tracked : ∀ file, Ledger.Tracks world.tree cachePath file → LiesBelow around file
  owned : (rows world.remote).Owned (CutBelow around)

/-- What was saved is all that is tracked then. -/
theorem has_of_tracks_saved {ledger : Ledger} {tree saved : FileTree} {file : Path}
    (sound : tree.Sound) (ordered : ledger.Ordered) (undiverted : tree.Undiverted cachePath)
    (done : ledger.save cachePath tree = (.ok (), saved))
    (tracks : Ledger.Tracks saved cachePath file) : ledger.has file = true := by
  rcases Ledger.load_cases_of_save sound ordered undiverted done with loaded | loaded
  · exact (Ledger.tracks_iff loaded).mp tracks
  · cases (Ledger.tracks_iff loaded).mp tracks

include plain in
theorem Rooted.gathered {world : World σ} (rooted : Rooted rows around cachePath world) :
    Gathered rows around cachePath world := by
  induction rooted with
  | start world sound fresh bare =>
      refine ⟨sound, fun file tracks => ?_, fun row member => ?_⟩
      · cases (Ledger.tracks_iff fresh).mp tracks
      · rw [bare] at member
        cases member
  | edit _ tree sound kept inductionHypothesis =>
      refine ⟨sound, ?_, inductionHypothesis.owned⟩
      rintro file ⟨ledger, loaded, held⟩
      rcases kept ledger loaded with rfl | before
      · cases held
      · exact inductionHypothesis.tracked file ⟨ledger, before, held⟩
  | @run services session _ before _ _ account sameCache sameRoot keeps undiverted
      inductionHypothesis =>
      have sound := inductionHypothesis.sound
      have logged := (session.logged_spec (account.proceedings.records session) sound).1
      have loaded := account.loaded
      have saved := account.saved
      rw [sameCache] at loaded saved
      refine ⟨(Ledger.load_after_save logged undiverted saved).1, fun file tracks => ?_, ?_⟩
      · have held := has_of_tracks_saved logged
          ((Ledger.ordered_of_load loaded).absorbAll _) undiverted saved tracks
        by_cases member : file ∈ account.files
        · exact account.liesBelow plain sound sameRoot member
        · have old := account.get?_finalLedger file
          rw [Account.finalLedger, if_neg member] at old
          rw [Ledger.has, old, ← Ledger.has] at held
          exact inductionHypothesis.tracked file ⟨_, loaded, held⟩
      · rw [account.rows_after keeps]
        exact inductionHypothesis.owned.applyAll_history (account.minded_cutBelow plain sound sameRoot)
  | forget _ sameCache keeps undiverted ran inductionHypothesis =>
      have sound := inductionHypothesis.sound
      cases forget_iff.mp ran with
      | done loaded deleted saved =>
          rw [sameCache] at loaded saved
          refine ⟨(Ledger.load_after_save sound undiverted saved).1, fun file tracks => ?_, ?_⟩
          · have held := has_of_tracks_saved sound ((Ledger.ordered_of_load loaded).remove _)
              undiverted saved tracks
            exact inductionHypothesis.tracked file ⟨_, loaded, Ledger.has_of_has_remove held⟩
          · rw [keeps.rows_of_deleteFile deleted]
            exact inductionHypothesis.owned.deleteFile _

end Steps

/-! ## Forgetting by half -/

/-- To forget a path strays from a file: it takes the fingerprint of the file and not its rows, or its
rows and not its fingerprint. -/
def Strays (configuration : Configuration) (tree : FileTree) (root path file : Path) : Prop :=
  ¬ (forgottenPath configuration tree path = file ↔
    forgottenRelativePath configuration tree path = relativePath root file)

section Forgetting

variable (plain : ∀ name ∈ around, Path.IsPlain name)
  (rooted : Rooted rows around cachePath before) (sameCache : configuration.cachePath = cachePath)
  (keeps : services.KeepsRows rows) (undiverted : before.tree.Undiverted cachePath)
  (ran : (forget services configuration path).run before = (.ok had, after))

include plain rooted sameCache undiverted ran in
/-- Only the path that is forgotten loses its fingerprint, and it is told whether it had one. -/
theorem tracks_forgotten_iff (file : Path) :
    (had = true ↔ Ledger.Tracks before.tree cachePath
      (forgottenPath configuration before.tree path)) ∧
    (Ledger.Tracks after.tree cachePath file ↔ Ledger.Tracks before.tree cachePath file ∧
      forgottenPath configuration before.tree path ≠ file) := by
  have sound := (rooted.gathered plain).sound
  cases forget_iff.mp ran with
  | @done ledger loaded remote deleted tree saved =>
      rw [sameCache] at loaded saved
      refine ⟨(Ledger.tracks_iff loaded).symm, ?_⟩
      have ordered := (Ledger.ordered_of_load loaded).remove
        (forgottenPath configuration before.tree path)
      rw [Ledger.tracks_iff loaded]
      by_cases filled : ledger = .empty
      · subst filled
        refine ⟨fun tracks => ?_, fun both => by cases both.1⟩
        cases has_of_tracks_saved sound ordered undiverted saved tracks
      · have again := Ledger.load_eq_of_loaded sound loaded filled ordered
          ((Ledger.fits_of_load loaded).remove _) undiverted saved
        rw [Ledger.tracks_iff again]
        by_cases same : file = forgottenPath configuration before.tree path
        · rw [same, Ledger.has_remove_self]
          simp
        · rw [Ledger.has_remove_other same]
          exact (and_iff_left (Ne.symm same)).symm

include plain rooted keeps ran in
/-- The rows of a file are dropped where they are under the relative path that is forgotten. -/
theorem cutFrom_forgotten (file : Path) : (rows after.remote).cutFrom file =
    if forgottenRelativePath configuration before.tree path = relativePath (Path.ofNames around) file
    then [] else (rows before.remote).cutFrom file := by
  have owned := (rooted.gathered plain).owned
  have dropped : rows after.remote = (rows before.remote).deleteFile
      (forgottenRelativePath configuration before.tree path) := by
    cases forget_iff.mp ran with
    | done _ deleted _ => exact keeps.rows_of_deleteFile deleted
  rw [dropped]
  apply RowTable.cutFrom_deleteFile
  intro row member
  obtain ⟨held, from_⟩ := List.mem_filter.mp member
  have own : row.chunk.metadata.absolutePath = file := by simpa using from_
  rw [← own]
  exact (owned row held).2

/-- Where the root still stands, a path with no backslash strays from a file exactly if it leads
nowhere, and spells the file in another way than by its canonical path. -/
theorem strays_iff_spells {rest : List String} (plain : ∀ name ∈ around, Path.IsPlain name)
    (sound : before.tree.Sound)
    (standing : standingRoot configuration before.tree = Path.ofNames around)
    (nonempty : rest ≠ []) (legal : ∀ name ∈ rest, Path.IsName name) (unescaped : Unescaped rest)
    (noBackslash : '\\' ∉ (forgottenPath configuration before.tree path).text.toList) :
    Strays configuration before.tree (Path.ofNames around) path (Path.ofNames (around ++ rest)) ↔
      before.tree.exists ((Path.ofNames around).join path) = false ∧
        (Path.ofNames around).join path ≠ Path.ofNames (around ++ rest) ∧
        Path.Spells around rest ((Path.ofNames around).join path) := by
  have outer : ∀ name ∈ around, Path.IsName name := fun name member => (plain name member).1
  rw [forgottenPath, standing] at noBackslash
  rw [Strays, forgottenRelativePath, forgottenPath, standing]
  cases canonical : before.tree.canonicalize ((Path.ofNames around).join path) with
  | ok found =>
      obtain ⟨location, entry, led, rfl⟩ := FileTree.canonicalize_eq_ok canonical
      have tracked : trackedPath before.tree (Path.ofNames around) path = Path.ofNames location := by
        rw [trackedPath_eq, canonical]
      have there : before.tree.exists ((Path.ofNames around).join path) = true := by
        rw [FileTree.exists, led]
        rfl
      rw [tracked] at noBackslash ⊢
      rw [there]
      refine ⟨fun stray => (stray ⟨fun same => by rw [same], fun same => ?_⟩).elim,
        fun gone => absurd gone.1 Bool.noConfusion⟩
      have further := Path.unescaped_of_ofNames noBackslash
      rw [relativePath_injective outer nonempty legal unescaped (sound.find_spec led).2
        (fun _ name member => further name (List.mem_of_mem_drop member)) same.symm]
  | error failure =>
      have tracked : trackedPath before.tree (Path.ofNames around) path =
          (Path.ofNames around).join path := by
        rw [trackedPath_eq, canonical]
      have gone : before.tree.exists ((Path.ofNames around).join path) = false := by
        cases led : before.tree.find ((Path.ofNames around).join path) with
        | error error =>
            rw [FileTree.exists, led]
            rfl
        | ok result =>
            rw [FileTree.canonicalize, led] at canonical
            cases canonical
      rw [tracked] at noBackslash ⊢
      rw [relativePath_eq_iff_spells outer nonempty legal unescaped
        (Path.isAbsolute_join (Path.isAbsolute_ofNames around) path) noBackslash, and_iff_right gone]
      constructor
      · intro stray
        by_cases same : (Path.ofNames around).join path = Path.ofNames (around ++ rest)
        · exact absurd (iff_of_true same (same ▸ Path.spells_ofNames outer nonempty legal)) stray
        · exact ⟨same, by_contra fun other => stray (iff_of_false same other)⟩
      · exact fun both agree => both.1 (agree.mpr both.2)

include plain rooted sameCache keeps undiverted ran in
/-- It is told whether a fingerprint went.  A file with a fingerprint and rows loses both or none,
unless the path strays from it.  Where the root still stands and no backslash is in the way, this
happens exactly if the path leads nowhere and spells the file in another way than by its canonical
path. -/
theorem forgets_both_or_none_iff :
    (had = true ↔ ∃ file, Ledger.Tracks before.tree cachePath file ∧
      ¬ Ledger.Tracks after.tree cachePath file) ∧
    ∀ file, Ledger.Tracks before.tree cachePath file → (rows before.remote).cutFrom file ≠ [] →
      ((¬ Ledger.Tracks after.tree cachePath file ↔ (rows after.remote).cutFrom file = []) ↔
        ¬ Strays configuration before.tree (Path.ofNames around) path file) ∧
      ∃ rest, file = Path.ofNames (around ++ rest) ∧
        (standingRoot configuration before.tree = Path.ofNames around → Unescaped rest →
          '\\' ∉ (forgottenPath configuration before.tree path).text.toList →
          (Strays configuration before.tree (Path.ofNames around) path file ↔
            before.tree.exists ((Path.ofNames around).join path) = false ∧
              (Path.ofNames around).join path ≠ file ∧
              Path.Spells around rest ((Path.ofNames around).join path))) := by
  have fingerprints := tracks_forgotten_iff plain rooted sameCache undiverted ran
  have dropped := cutFrom_forgotten plain rooted keeps ran
  refine ⟨?_, fun file tracked filled => ⟨?_, ?_⟩⟩
  · constructor
    · intro told
      have held := (fingerprints (forgottenPath configuration before.tree path)).1.mp told
      exact ⟨_, held, fun still => ((fingerprints _).2.mp still).2 rfl⟩
    · rintro ⟨file, held, lost⟩
      by_cases same : forgottenPath configuration before.tree path = file
      · exact (fingerprints file).1.mpr (same ▸ held)
      · exact absurd ((fingerprints file).2.mpr ⟨held, same⟩) lost
  · have lost : ¬ Ledger.Tracks after.tree cachePath file ↔
        forgottenPath configuration before.tree path = file := by
      rw [(fingerprints file).2, and_iff_right tracked, not_not]
    have gone : (rows after.remote).cutFrom file = [] ↔
        forgottenRelativePath configuration before.tree path =
          relativePath (Path.ofNames around) file := by
      rw [dropped file]
      split
      · rename_i here
        exact iff_of_true rfl here
      · rename_i apart
        exact iff_of_false filled apart
    rw [lost, gone, Strays, not_not]
  · obtain ⟨rest, rfl, nonempty, legal⟩ := (rooted.gathered plain).tracked file tracked
    exact ⟨rest, rfl, fun standing unescaped noBackslash => strays_iff_spells plain
      (rooted.gathered plain).sound standing nonempty legal unescaped noBackslash⟩

end Forgetting

end Ingestion

namespace Small

open Ingestion

/-- The file was indexed, and is gone since then. -/
def deserted : World RowTable :=
  { indexed with tree := indexed.tree.erase ["r", "A.java"] }

/-- The path of the file from the root, with a part in front that names nothing. -/
def dotted : Path :=
  ⟨"./A.java"⟩

theorem rooted_indexed : Rooted id ["r"] configuration.cachePath indexed := by
  obtain ⟨account, _⟩ := exists_account_of_sound sound_fresh run_fresh
  have sameRoot : account.root = Path.ofNames ["r"] :=
    Except.ok.inj (account.resolved.symm.trans (by decide +kernel))
  have free : (Ledger.prepared configuration.cachePath fresh.tree).2.resolve .itself
      (Ledger.temporaryPath configuration.cachePath) = .ok (.absent ["c", "cache.json.tmp"]) := by
    decide +kernel
  exact .run (.start fresh sound_fresh (by decide +kernel) rfl) account rfl sameRoot
    (Services.keepsRows_ofTable _ _ _ _ _) (FileTree.undiverted_of_absent free)

theorem plain_around : ∀ name ∈ ["r"], Path.IsPlain name := by
  decide +kernel

/-- The file has a fingerprint. -/
theorem tracks_indexed : Ledger.Tracks indexed.tree configuration.cachePath file := by
  obtain ⟨account, summary⟩ := exists_account_of_sound sound_fresh run_fresh
  obtain ⟨_, files⟩ := files_eq account (by decide +kernel) (by decide +kernel)
  have member : file ∈ account.files := files ▸ List.mem_singleton_self file
  have counted : account.Counted := account.counted_of_summary (by rw [summary]; decide)
  have apart : fresh.tree.Apart ["r"] configuration.cachePath :=
    apart_tree [("A.java", "class A")] none sound_fresh
  have loaded := (account.load_after apart.keeps counted).1
  obtain ⟨_, given⟩ := account.exists_fingerprint_of_processes
    ⟨member, account.processed_of_summary (by rw [summary, files]; rfl) member⟩
  refine ⟨_, loaded, ?_⟩
  rw [Ledger.has, account.get?_finalLedger, if_pos member, given]
  rfl

/-- The cache is still there when the file is gone. -/
theorem find_deserted :
    deserted.tree.find configuration.cachePath = indexed.tree.find configuration.cachePath := by
  have sound := (rooted_indexed.gathered plain_around).sound
  have blocked : (indexed.tree.get? ["c", "cache.json"]).map Entry.way = some .nowhere := by
    decide +kernel
  obtain ⟨entry, held, nowhere⟩ := Option.map_eq_some_iff.mp blocked
  have names : configuration.cachePath = Path.ofNames ["c", "cache.json"] := by decide +kernel
  rw [names]
  refine sound.find_eq_of_retains (by decide +kernel) (List.cons_ne_nil _ _) held nowhere
    fun part inside => sound.retains_erase (by decide +kernel) ?_
  rintro rfl
  exact absurd inside (by decide +kernel)

theorem rooted_deserted : Rooted id ["r"] configuration.cachePath deserted := by
  have sound := (rooted_indexed.gathered plain_around).sound
  refine rooted_indexed.edit deserted.tree (sound.erase (by decide +kernel)) fun ledger loaded => ?_
  exact .inr (Ledger.load_congr find_deserted ▸ loaded)

/-- The file had a fingerprint and a row, and does not lose both or none of them. -/
theorem forgets_both_or_none_dotted :
    ∃ had after, (forget (services embed) configuration dotted).run deserted = (.ok had, after) ∧
      Ledger.Tracks deserted.tree configuration.cachePath file ∧
      deserted.remote.cutFrom file ≠ [] ∧
      ¬ (¬ Ledger.Tracks after.tree configuration.cachePath file ↔ after.remote.cutFrom file = []) := by
  obtain ⟨ledger, loaded, held⟩ := tracks_indexed
  rw [← Ledger.load_congr find_deserted] at loaded
  have tracked : Ledger.Tracks deserted.tree configuration.cachePath file := ⟨ledger, loaded, held⟩
  have free : (Ledger.prepared configuration.cachePath deserted.tree).2.resolve .itself
      (Ledger.temporaryPath configuration.cachePath) = .ok (.absent ["c", "cache.json.tmp"]) := by
    decide +kernel
  have savable : (Ledger.empty.save configuration.cachePath deserted.tree).1 = .ok () := by
    decide +kernel
  have saved := eq_mk_snd ((Ledger.save_result_eq (.refl deserted.tree) .empty
    (ledger.remove (forgottenPath configuration deserted.tree dotted)) configuration.cachePath).trans
      savable)
  have ran : (forget (services embed) configuration dotted).run deserted = _ :=
    (Forgets.done loaded rfl saved).run_eq
  obtain ⟨_, each⟩ := forgets_both_or_none_iff plain_around rooted_deserted rfl
    (Services.keepsRows_ofTable _ _ _ _ _) (FileTree.undiverted_of_absent free) ran
  have filled : deserted.remote.cutFrom file ≠ [] := by decide +kernel
  have apart : forgottenPath configuration deserted.tree dotted ≠ file := by decide +kernel
  have same : forgottenRelativePath configuration deserted.tree dotted =
      FileJob.relativePath (Path.ofNames ["r"]) file := by decide +kernel
  exact ⟨_, _, ran, tracked, filled, fun both => (each file tracked filled).1.mp both
    fun agree => apart (agree.mpr same)⟩

end Small

end SourceHarvest
