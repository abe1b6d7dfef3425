import SourceHarvest.Proofs.Ingestion.Aborting
import SourceHarvest.Proofs.Ingestion.Forgetting
import SourceHarvest.Proofs.VectorStore.Rows

/-!
# When a file cannot be forgotten

Forgetting a file takes three steps: the cache is loaded, the rows of the file are deleted, and the
cache is saved without the fingerprint of the file.  Each of them can fail, and nothing takes back
what was done before.  A failure leaves the old cache in place.  It leaves the rows as they were too,
unless it came with the last step, when the rows of the file are gone.
-/

namespace SourceHarvest

namespace RowTable

/-- To drop the rows of a file changes nothing exactly where there are none. -/
theorem deleteFile_eq_self_iff {table : RowTable} {relativePath : String} :
    table.deleteFile relativePath = table ↔ table.ofFile relativePath = [] := by
  rcases table with ⟨rows⟩
  rw [deleteFile, ofFile, RowTable.mk.injEq, List.filter_eq_self, List.filter_eq_nil_iff]
  simp only [bne_iff_ne, beq_iff_eq, ne_eq]

end RowTable

namespace Ingestion

variable {σ : Type} {services : Services σ} {configuration : Configuration} {path : Path}
  {before after : World σ} {failure : Failure}

/-- The path whose fingerprint goes when a path is forgotten. -/
def forgottenPath (configuration : Configuration) (tree : FileTree) (path : Path) : Path :=
  trackedPath tree (standingRoot configuration tree) path

/-- The relative path whose rows go when a path is forgotten. -/
def forgottenRelativePath (configuration : Configuration) (tree : FileTree) (path : Path) : String :=
  FileJob.relativePath (standingRoot configuration tree) (forgottenPath configuration tree path)

/-- What becomes of an attempt to forget a file: the step at which it fails, with its failure and the
world that it leaves, or its success. -/
inductive Forgets (services : Services σ) (configuration : Configuration) (path : Path)
    (before : World σ) : Except Failure Bool → World σ → Prop where
  | unloadable {failure : Failure}
      (failed : Ledger.load before.tree configuration.cachePath = .error failure) :
      Forgets services configuration path before (.error failure) before
  | undeleted {ledger : Ledger}
      (loaded : Ledger.load before.tree configuration.cachePath = .ok ledger) {cause : Failure}
      {remote : σ} (refused : services.deleteFile
        (forgottenRelativePath configuration before.tree path) before.remote =
          (.error cause, remote)) :
      Forgets services configuration path before
        (.error (cause.context "Failed to delete rows from vector store")) { before with remote }
  | unsaved {ledger : Ledger}
      (loaded : Ledger.load before.tree configuration.cachePath = .ok ledger) {remote : σ}
      (deleted : services.deleteFile
        (forgottenRelativePath configuration before.tree path) before.remote = (.ok (), remote))
      {failure : Failure} {tree : FileTree}
      (failed : (ledger.remove (forgottenPath configuration before.tree path)).save
        configuration.cachePath before.tree = (.error failure, tree)) :
      Forgets services configuration path before (.error failure) { before with remote, tree }
  | done {ledger : Ledger}
      (loaded : Ledger.load before.tree configuration.cachePath = .ok ledger) {remote : σ}
      (deleted : services.deleteFile
        (forgottenRelativePath configuration before.tree path) before.remote = (.ok (), remote))
      {tree : FileTree}
      (saved : (ledger.remove (forgottenPath configuration before.tree path)).save
        configuration.cachePath before.tree = (.ok (), tree)) :
      Forgets services configuration path before
        (.ok (ledger.has (forgottenPath configuration before.tree path)))
        { before with remote, tree }

/-- Work goes on in the world that its first part left. -/
theorem bind_of_run {α β : Type} {work : Action σ α} {next : α → Action σ β} {world middle : World σ}
    {value : α} (first : work.run world = (.ok value, middle)) :
    (work >>= next).run world = (next value).run middle := by
  rw [run_bind, first]
  rfl

theorem run_remotely {α : Type} {use : σ → Except Failure α × σ} (world : World σ)
    {result : Except Failure α} {remote : σ} (used : use world.remote = (result, remote)) :
    (Action.remotely use).run world = (result, { world with remote }) := by
  change ((use world.remote).1, { world with remote := (use world.remote).2 }) = _
  rw [used]

theorem run_changingFiles {α : Type} {change : FileTree → Except Failure α × FileTree}
    (world : World σ) {result : Except Failure α} {tree : FileTree}
    (changed : change world.tree = (result, tree)) :
    (Action.changingFiles change).run world = (result, { world with tree }) := by
  change ((change world.tree).1, { world with tree := (change world.tree).2 }) = _
  rw [changed]

/-- An attempt to forget a file comes to what is told of it. -/
theorem Forgets.run_eq {result : Except Failure Bool}
    (forgets : Forgets services configuration path before result after) :
    (forget services configuration path).run before = (result, after) := by
  have looked {ledger : Ledger}
      (loaded : Ledger.load before.tree configuration.cachePath = .ok ledger) :
      (Action.lookingAtFiles (Ledger.load · configuration.cachePath) : Action σ Ledger).run before =
        (.ok ledger, before) :=
    Prod.ext loaded rfl
  have asked {result : Except Failure Unit} {remote : σ} (told : services.deleteFile
      (forgottenRelativePath configuration before.tree path) before.remote = (result, remote)) :
      (Failure.during "Failed to delete rows from vector store" (services.deleteFile
        (forgottenRelativePath configuration before.tree path) before.remote).1,
        (services.deleteFile
          (forgottenRelativePath configuration before.tree path) before.remote).2) =
        (Failure.during "Failed to delete rows from vector store" result, remote) := by
    rw [told]
  rw [forget, bind_of_ok before rfl]
  cases forgets with
  | unloadable failed => exact bind_of_error (Prod.ext failed rfl)
  | undeleted loaded refused =>
      exact (bind_of_run (looked loaded)).trans (bind_of_error (run_remotely before (asked refused)))
  | @unsaved ledger loaded remote deleted failure tree failed =>
      exact (bind_of_run (looked loaded)).trans
        ((bind_of_run (run_remotely before (asked deleted))).trans
          (bind_of_error (run_changingFiles { before with remote } failed)))
  | @done ledger loaded remote deleted tree saved =>
      exact (bind_of_run (looked loaded)).trans
        ((bind_of_run (run_remotely before (asked deleted))).trans
          (bind_of_run (run_changingFiles { before with remote } saved)))

/-- Something becomes of every attempt to forget a file. -/
theorem exists_forgets (services : Services σ) (configuration : Configuration) (path : Path)
    (before : World σ) : ∃ result after, Forgets services configuration path before result after := by
  cases loaded : Ledger.load before.tree configuration.cachePath with
  | error failure => exact ⟨_, _, .unloadable loaded⟩
  | ok ledger =>
  cases told : services.deleteFile (forgottenRelativePath configuration before.tree path)
    before.remote with
  | mk answer remote =>
  cases answer with
  | error cause => exact ⟨_, _, .undeleted loaded told⟩
  | ok =>
  cases saved : (ledger.remove (forgottenPath configuration before.tree path)).save
    configuration.cachePath before.tree with
  | mk outcome tree =>
  cases outcome with
  | error failure => exact ⟨_, _, .unsaved loaded told saved⟩
  | ok => exact ⟨_, _, .done loaded told saved⟩

theorem forget_iff {result : Except Failure Bool} :
    (forget services configuration path).run before = (result, after) ↔
      Forgets services configuration path before result after := by
  refine ⟨fun ran => ?_, Forgets.run_eq⟩
  obtain ⟨told, final, forgets⟩ := exists_forgets services configuration path before
  cases ran.symm.trans forgets.run_eq
  exact forgets

/-- What is left where a file cannot be forgotten.  A cache stays as it is, and a file that is found
in its place afterwards was in the tree before.  The rows are dropped where the store was asked to,
and did not refuse. -/
structure LeftBehind (services : Services σ) (rows : σ → RowTable) (configuration : Configuration)
    (path : Path) (before after : World σ) : Prop where
  records : after.records = before.records
  kept : ∀ (location : Location) (content : ByteArray) (time : Int),
    before.tree.find configuration.cachePath = .ok (location, .file content time) →
      after.tree.find configuration.cachePath = .ok (location, .file content time)
  known : ∀ (location : Location) (content : ByteArray) (time : Int),
    after.tree.find configuration.cachePath = .ok (location, .file content time) →
      before.tree.get? location = some (.file content time)
  rows_eq : rows after.remote =
    if (Ledger.load before.tree configuration.cachePath).toBool &&
        (services.deleteFile (forgottenRelativePath configuration before.tree path)
          before.remote).1.toBool
    then (rows before.remote).deleteFile (forgottenRelativePath configuration before.tree path)
    else rows before.remote

theorem leftBehind_of_forgets {rows : σ → RowTable} (keeps : services.KeepsRows rows)
    (sound : before.tree.Sound)
    (forgets : Forgets services configuration path before (.error failure) after) :
    LeftBehind services rows configuration path before after := by
  have heard := keeps.deleteFile (forgottenRelativePath configuration before.tree path) before.remote
  have standing (location : Location) (content : ByteArray) (time : Int)
      (found : before.tree.find configuration.cachePath = .ok (location, .file content time)) :
      before.tree.get? location = some (.file content time) :=
    (sound.resolve_holds (FileTree.find_eq_ok_iff.mp found)).2 Way.noConfusion
  cases forgets with
  | unloadable failed =>
      refine ⟨rfl, fun _ _ _ found => found, standing, ?_⟩
      rw [failed]
      rfl
  | undeleted loaded refused =>
      refine ⟨rfl, fun _ _ _ found => found, standing, ?_⟩
      rw [refused] at heard ⊢
      rw [loaded]
      exact heard
  | unsaved loaded deleted failed =>
      refine ⟨rfl, fun _ _ _ found => Ledger.find_of_unsaved sound found failed,
        fun _ _ _ found => Ledger.get?_of_unsaved sound failed found, ?_⟩
      rw [deleted] at heard ⊢
      rw [loaded]
      exact heard

end Ingestion

namespace Small

open Ingestion

/-- A row of the file. -/
def row : StoredRow where
  chunk :=
    { id := "A", content := "class A"
      metadata :=
        { absolutePath := file, relativePath := "A.java"
          scopeName := none, containerName := none, memberName := none
          kind := .file, language := "java", startLine := 1, endLine := 1, contentHash := "A" } }
  embedding := ⟨[]⟩

/-- A file with its fingerprint and its row, and a directory in the way of the temporary file of the
cache. -/
def blocked : World RowTable where
  tree :=
    (tree [("A.java", "class A")] (some (Ledger.empty.record file ⟨"A", 5000, 1⟩))).enter
      ["c", "cache.json.tmp"] (.directory 5000)
  remote := ⟨[row]⟩
  records := []

theorem sound_blocked : blocked.tree.Sound :=
  ⟨by decide +kernel, by decide +kernel, FileTree.nested_of_entries (by decide +kernel),
    by decide +kernel⟩

theorem forget_blocked : (forget (services embed) configuration file).run blocked =
    (.error ((Failure.ofFile .isDirectory).context "Failed to write fingerprint cache"),
      ((forget (services embed) configuration file).run blocked).2) :=
  eq_mk_snd (by decide +kernel)

end Small

end SourceHarvest
