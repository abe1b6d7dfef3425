import SourceHarvest.Proofs.Fingerprint.Standing
import SourceHarvest.Proofs.Ingestion.Retry
import SourceHarvest.Proofs.Ingestion.Straying
import SourceHarvest.Proofs.Path.Backslashes

/-!
# Forgetting exactly one file

A file is forgotten under its canonical path, under its path from the root, or under any path that leads
to it.  Each of them names the fingerprint and the rows of this file, and of no other one where names
hold no backslash.  To forget it once more changes nothing, and the next run takes it in anew.
-/

namespace SourceHarvest

namespace Path

/-- Without a slash at its end, a path is followed by a slash. -/
theorem join_of_getLast? {base path : Path} (relative : path.isAbsolute = false)
    (filled : base.text.isEmpty = false) (bare : base.text.toList.getLast? ≠ some '/') :
    base.join path = ⟨base.text ++ "/" ++ path.text⟩ := by
  rw [join, relative, if_neg Bool.false_ne_true, if_neg]
  rintro (blank | slash)
  · rw [filled] at blank
    cases blank
  · exact bare slash

/-- A path of names does not end in a slash. -/
theorem getLast?_ofNames {names : List String} (nonempty : names ≠ [])
    (legal : ∀ name ∈ names, IsName name) : (ofNames names).text.toList.getLast? ≠ some '/' := by
  intro slash
  obtain ⟨text, ends⟩ := List.getLast?_eq_some_iff.mp slash
  have blank := FileTree.getLast?_steps_of_slash ends
  rw [steps_ofNames nonempty legal] at blank
  exact (legal "" (List.mem_of_getLast? blank)).2.1 rfl

/-- The text of names below the root, followed from the root, is the path of all names. -/
theorem join_textBelow {around rest : List String} (outer : ∀ name ∈ around, IsName name)
    (legal : ∀ name ∈ rest, IsName name) (nonempty : rest ≠ []) :
    (ofNames around).join ⟨textBelow rest⟩ = ofNames (around ++ rest) := by
  have relative : Path.isAbsolute ⟨textBelow rest⟩ = false := by
    rw [isAbsolute, beq_eq_false_iff_ne]
    exact FileJob.head?_textBelow legal
  have text : (textBelow rest).toList = Text.joinWithMark '/' (rest.map String.toList) :=
    String.toList_ofList
  by_cases top : around = []
  · subst top
    rw [join, relative, if_neg Bool.false_ne_true, if_pos (.inr (by decide)), Path.mk.injEq,
      ← String.toList_inj, String.toList_append, text, toList_ofNames, toList_ofNames]
    rfl
  · have filled : (ofNames around).text.isEmpty = false := by
      rw [String.isEmpty_eq_false_iff]
      intro blank
      have slash := toList_ofNames around
      rw [blank] at slash
      cases slash
    rw [join_of_getLast? relative filled (getLast?_ofNames top outer), Path.mk.injEq,
      ← String.toList_inj, String.toList_append, String.toList_append, text, toList_ofNames,
      toList_ofNames, List.map_append, Text.joinWithMark_append (by simpa using top)
        (by simpa using nonempty)]
    simp

end Path

namespace RowTable

/-- Rows that were dropped are not dropped once more. -/
theorem deleteFile_self (table : RowTable) (relativePath : String) :
    (table.deleteFile relativePath).deleteFile relativePath = table.deleteFile relativePath := by
  simp only [deleteFile, List.filter_filter, Bool.and_self]

end RowTable

namespace Ledger

/-- A fingerprint that was removed is not removed once more. -/
theorem remove_remove (ledger : Ledger) (path : Path) :
    (ledger.remove path).remove path = ledger.remove path := by
  rw [remove, remove, List.filter_filter]
  simp only [Bool.and_self]

end Ledger

namespace Ingestion

open FileJob

variable {σ : Type} {services : Services σ} {configuration : Configuration} {before after : World σ}
  {rows : σ → RowTable} {around rest : List String} {cachePath path : Path}

/-- The path stands for the file with the given names below the root: it is the canonical path of the
file, its path from the root, or one that leads to it. -/
def StandsFor (tree : FileTree) (around rest : List String) (path : Path) : Prop :=
  path = Path.ofNames (around ++ rest) ∨
    path = ⟨relativePath (Path.ofNames around) (Path.ofNames (around ++ rest))⟩ ∨
    tree.canonicalize ((Path.ofNames around).join path) = .ok (Path.ofNames (around ++ rest))

/-- The store does not refuse to drop the rows under a relative path, and a cache can be saved. -/
structure Willing (services : Services σ) (cachePath : Path) (relativePath : String)
    (world : World σ) : Prop where
  answers : (services.deleteFile relativePath world.remote).1 = .ok ()
  savable : (Ledger.empty.save cachePath world.tree).1 = .ok ()

/-- A path that stands for a file is forgotten as the file, also where the file is gone. -/
theorem trackedPath_of_standsFor {tree : FileTree} (plain : ∀ name ∈ around ++ rest, Path.IsPlain name)
    (unescaped : Unescaped rest) (nonempty : rest ≠ []) (unlinked : tree.Unlinked [] (around ++ rest))
    (stands : StandsFor tree around rest path) :
    trackedPath tree (Path.ofNames around) path = Path.ofNames (around ++ rest) := by
  have legal (name : String) (member : name ∈ around ++ rest) := (plain name member).1
  have outer (name : String) (member : name ∈ around) := legal name (List.mem_append_left _ member)
  have inner (name : String) (member : name ∈ rest) := legal name (List.mem_append_right _ member)
  have itself (joined : (Path.ofNames around).join path = Path.ofNames (around ++ rest)) :
      trackedPath tree (Path.ofNames around) path = Path.ofNames (around ++ rest) := by
    rw [trackedPath_eq, joined]
    cases canonical : tree.canonicalize (Path.ofNames (around ++ rest)) with
    | error failure => rfl
    | ok found =>
        obtain ⟨location, entry, led, rfl⟩ := FileTree.canonicalize_eq_ok canonical
        have there := (FileTree.resolve_ofNames_spec (by simp [nonempty]) plain unlinked
          (FileTree.find_eq_ok_iff.mp led)).1
        exact congrArg Path.ofNames there
  rcases stands with rfl | rfl | canonical
  · apply itself
    rw [Path.join, if_pos (Path.isAbsolute_ofNames _)]
  · apply itself
    rw [relativePath_below outer inner unescaped, Path.join_textBelow outer inner nonempty]
  · rw [trackedPath_eq, canonical]

/-- A file is forgotten where the cache is loaded and there is nothing in the way.  It is told whether
it had a fingerprint. -/
theorem forget_of_willing {ledger : Ledger} {root file : Path} (keeps : services.KeepsRows rows)
    (loaded : Ledger.load before.tree configuration.cachePath = .ok ledger)
    (standing : standingRoot configuration before.tree = root)
    (tracked : trackedPath before.tree root path = file)
    (willing : Willing services configuration.cachePath (relativePath root file) before) :
    ∃ after, (forget services configuration path).run before = (.ok (ledger.has file), after) ∧
      (ledger.remove file).save configuration.cachePath before.tree = (.ok (), after.tree) ∧
      rows after.remote = (rows before.remote).deleteFile (relativePath root file) := by
  subst standing tracked
  obtain ⟨remote, deleted⟩ : ∃ remote, services.deleteFile
      (forgottenRelativePath configuration before.tree path) before.remote = (.ok (), remote) :=
    ⟨_, Prod.ext willing.answers rfl⟩
  obtain ⟨tree, saved⟩ : ∃ tree, (ledger.remove (forgottenPath configuration before.tree path)).save
      configuration.cachePath before.tree = (.ok (), tree) :=
    ⟨_, Prod.ext ((Ledger.save_result_eq (.refl before.tree) .empty _ _).trans willing.savable) rfl⟩
  exact ⟨_, (Forgets.done loaded deleted saved).run_eq, saved, keeps.rows_of_deleteFile deleted⟩

/-- A root that is still found is the one against which a file to forget is found. -/
theorem standingRoot_of_find {tree : FileTree} {time : Int}
    (found : tree.find configuration.root = .ok (around, .directory time)) :
    standingRoot configuration tree = Path.ofNames around := by
  rw [standingRoot, FileTree.canonicalize, found]
  rfl

/-- The file with the given names below the root can be forgotten: its cache is a file that loads as the
ledger and can be replaced, the root is found, and no link stands on the way to the file. -/
structure Forgettable (configuration : Configuration) (around rest : List String) (ledger : Ledger)
    (tree : FileTree) : Prop where
  sound : tree.Sound
  loaded : Ledger.load tree configuration.cachePath = .ok ledger
  filed : ∃ location bytes time, tree.find configuration.cachePath = .ok (location, .file bytes time)
  untaken : ∀ location target, tree.resolve .itself (Ledger.temporaryPath configuration.cachePath) ≠
    .ok (.present location (.link target))
  standing : ∃ time, tree.find configuration.root = .ok (around, .directory time)
  unlinked : tree.Unlinked [] (around ++ rest)

/-- A saved cache without the fingerprint is the cache of the file from then on, and leaves it as
forgettable as before. -/
theorem Forgettable.of_save {ledger : Ledger} {tree saved : FileTree}
    (forgettable : Forgettable configuration around rest ledger tree)
    (ran : (ledger.remove path).save configuration.cachePath tree = (.ok (), saved)) :
    Forgettable configuration around rest (ledger.remove path) saved := by
  obtain ⟨sound, loaded, ⟨_, _, _, found⟩, untaken, ⟨_, standing⟩, unlinked⟩ := forgettable
  have undiverted := Ledger.undiverted_of_find sound found untaken
  have ordered := (Ledger.ordered_of_load loaded).remove path
  have fits := (Ledger.fits_of_load loaded).remove path
  exact {
    sound := (Ledger.load_after_save sound undiverted ran).1
    loaded := Ledger.load_of_save_found sound found ordered fits undiverted ran
    filed := (Ledger.find_of_save_found sound found undiverted ran).imp fun _ filed =>
      filed.elim fun time filed => ⟨_, time, filed⟩
    untaken := Ledger.plain_after_save sound undiverted ran
    standing := Ledger.find_directory_of_save sound undiverted found ran standing
    unlinked := fun part target filled inside follow =>
      unlinked part target filled inside (Ledger.follow_of_save sound undiverted ran follow) }

/-- A forgettable file is forgotten by each path that stands for it, and is forgettable still. -/
theorem Forgettable.forget_eq {ledger : Ledger} (keeps : services.KeepsRows rows)
    (plain : ∀ name ∈ around ++ rest, Path.IsPlain name) (unescaped : Unescaped rest)
    (nonempty : rest ≠ [])
    (forgettable : Forgettable configuration around rest ledger before.tree)
    (willing : Willing services configuration.cachePath
      (relativePath (Path.ofNames around) (Path.ofNames (around ++ rest))) before)
    (stands : StandsFor before.tree around rest path) :
    ∃ after, (forget services configuration path).run before =
        (.ok (ledger.has (Path.ofNames (around ++ rest))), after) ∧
      Forgettable configuration around rest (ledger.remove (Path.ofNames (around ++ rest))) after.tree ∧
      rows after.remote = (rows before.remote).deleteFile
        (relativePath (Path.ofNames around) (Path.ofNames (around ++ rest))) := by
  obtain ⟨_, standing⟩ := forgettable.standing
  obtain ⟨after, ran, saved, dropped⟩ := forget_of_willing keeps forgettable.loaded
    (standingRoot_of_find standing)
    (trackedPath_of_standsFor plain unescaped nonempty forgettable.unlinked stands) willing
  exact ⟨after, ran, forgettable.of_save saved, dropped⟩

/-- A run that is not forced does not skip a file whose fingerprint the cache has lost. -/
theorem not_skipped_of_removed {ledger : Ledger} {session : Session} {file : Path}
    (next : Account services session configuration before after) (unforced : configuration.force = false)
    (loaded : Ledger.load before.tree configuration.cachePath = .ok (ledger.remove file))
    (member : file ∈ next.files) : (next.proceedings.report file).outcome ≠ .skipped := by
  intro skipped
  have current := (next.skipped_iff unforced member).mp skipped
  rw [← Except.ok.inj (loaded.symm.trans next.loaded), Ledger.outdated, Ledger.get?_remove_self] at current
  cases current

/-- The cache has lost the fingerprint of one file below the root, and the store the rows under its
relative path.  The rows of all other files are kept. -/
structure ForgetsOnly (rows : σ → RowTable) (cachePath : Path) (around rest : List String)
    (before after : World σ) : Prop where
  cache : ∃ ledger, Ledger.load before.tree cachePath = .ok ledger ∧
    Ledger.load after.tree cachePath = .ok (ledger.remove (Path.ofNames (around ++ rest)))
  dropped : rows after.remote = (rows before.remote).deleteFile
    (relativePath (Path.ofNames around) (Path.ofNames (around ++ rest)))
  kept : ∀ others, (∀ name ∈ others, Path.IsName name) → Unescaped others → others ≠ rest →
    (rows after.remote).cutFrom (Path.ofNames (around ++ others)) =
      (rows before.remote).cutFrom (Path.ofNames (around ++ others))

/-- Files with different names below the root have different paths from it. -/
theorem relativePath_ne {others : List String} (plain : ∀ name ∈ around ++ rest, Path.IsPlain name)
    (unescaped : Unescaped rest) (nonempty : rest ≠ []) (legal : ∀ name ∈ others, Path.IsName name)
    (othersUnescaped : Unescaped others) (distinct : others ≠ rest) :
    relativePath (Path.ofNames around) (Path.ofNames (around ++ rest)) ≠
      relativePath (Path.ofNames around) (Path.ofNames (around ++ others)) := by
  intro same
  have outer (name : String) (member : name ∈ around) := (plain name (List.mem_append_left _ member)).1
  have inner (name : String) (member : name ∈ rest) := (plain name (List.mem_append_right _ member)).1
  have whole := relativePath_injective outer nonempty inner unescaped
    (fun name member => (List.mem_append.mp member).elim (outer name) (legal name))
    (fun _ => by rwa [List.drop_left]) same
  exact distinct (List.append_cancel_left whole).symm

section Forgetting

variable (plain : ∀ name ∈ around ++ rest, Path.IsPlain name) (unescaped : Unescaped rest)
  (rooted : Rooted rows around configuration.cachePath before) (keeps : services.KeepsRows rows)
  (tracked : Ledger.Tracks before.tree configuration.cachePath (Path.ofNames (around ++ rest)))
  (unlinked : before.tree.Unlinked [] (around ++ rest)) {time : Int}
  (standing : before.tree.find configuration.root = .ok (around, .directory time))
  (willing : Willing services configuration.cachePath
    (relativePath (Path.ofNames around) (Path.ofNames (around ++ rest))) before)
  (untaken : ∀ location target, before.tree.resolve .itself
    (Ledger.temporaryPath configuration.cachePath) ≠ .ok (.present location (.link target)))

include plain rooted tracked in
/-- A file with a fingerprint is not the root. -/
theorem ne_nil_of_tracks : rest ≠ [] := by
  have gathered := rooted.gathered fun name member => plain name (List.mem_append_left _ member)
  obtain ⟨found, same, nonempty, legal⟩ := gathered.tracked _ tracked
  have whole := Path.ofNames_injective (fun name member => (plain name member).1)
    (fun name member => (List.mem_append.mp member).elim
      (fun outer => (plain name (List.mem_append_left _ outer)).1) (legal name)) same
  exact List.append_cancel_left whole ▸ nonempty

include plain rooted tracked unlinked standing untaken in
/-- A file with a fingerprint, with no link on the way to it, is forgettable. -/
theorem forgettable_of_tracks :
    ∃ ledger, Forgettable configuration around rest ledger before.tree ∧
      ledger.has (Path.ofNames (around ++ rest)) = true := by
  have sound := (rooted.gathered fun name member => plain name (List.mem_append_left _ member)).sound
  obtain ⟨ledger, loaded, held⟩ := tracked
  have filled : ledger ≠ .empty := by
    rintro rfl
    cases held
  exact ⟨ledger, ⟨sound, loaded, Ledger.exists_file_of_filled loaded filled, untaken, ⟨time, standing⟩,
    unlinked⟩, held⟩

end Forgetting

end Ingestion

namespace Small

open Ingestion

/-- The path of the file from the root. -/
def short : Path :=
  ⟨"A.java"⟩

/-- The file was forgotten by its path from the root. -/
def forgotten : World RowTable :=
  ((forget (services embed) configuration short).run indexed).2

end Small

end SourceHarvest
