import SourceHarvest.Proofs.Fingerprint.Replacement
import SourceHarvest.Proofs.Ingestion.Readiness
import SourceHarvest.Proofs.Ingestion.Scheduling

/-!
# Runs over orderly trees

In an orderly tree no name leads upwards, and none below the root holds a backslash.  Then the
relative paths of files tell them apart, and a cache outside the root can be saved without a trace
in the files.
-/

namespace SourceHarvest

/-- The tree is sound, no name in it leads upwards, and none below a root holds a backslash. -/
structure FileTree.Orderly (tree : FileTree) (root : Path) : Prop where
  sound : tree.Sound
  forth : ∀ held ∈ tree.entries, ".." ∉ held.1
  unescaped : ∀ held ∈ tree.entries, root.names <+: held.1 →
    FileJob.Unescaped (held.1.drop root.names.length)

namespace FileTree

variable {tree other : FileTree} {root : Path} {names : List String}

/-- All names on the way to what an orderly tree holds are plain. -/
theorem Orderly.plain_of_get? (orderly : tree.Orderly root) {entry : Entry}
    (held : tree.get? names = some entry) : ∀ name ∈ names, Path.IsPlain name := by
  intro name member
  refine ⟨orderly.sound.named_of_get? held name member, ?_⟩
  rintro rfl
  exact orderly.forth _ (mem_of_get? (List.ne_nil_of_mem member) held) member

/-- What a path of plain names to a file finds is that file. -/
theorem Sound.find_file (sound : tree.Sound) (plain : ∀ name ∈ names, Path.IsPlain name)
    {content : ByteArray} {time : Int} (held : tree.get? names = some (.file content time))
    {location : Location} {entry : Entry}
    (found : tree.find (Path.ofNames names) = .ok (location, entry)) : entry = .file content time := by
  have nonempty : names ≠ [] := by
    rintro rfl
    cases held
  have resolved := find_eq_ok_iff.mp found
  have unlinked := sound.unlinked held fun target => by simp
  obtain rfl : location = names := (resolve_ofNames_spec nonempty plain unlinked resolved).1
  obtain ⟨way, kept⟩ : tree.Holds (.present location entry) := sound.resolve_holds resolved
  have calm : entry.way ≠ .onward := by
    rw [← way, way_of_get? held]
    exact Way.noConfusion
  exact Option.some.inj ((kept calm).symm.trans held)

/-- A file that is found as before has the same time and the same bytes. -/
theorem Sound.modified_read_eq (sound : tree.Sound) (plain : ∀ name ∈ names, Path.IsPlain name)
    {content : ByteArray} {time : Int} (held : tree.get? names = some (.file content time))
    (same : other.find (Path.ofNames names) = tree.find (Path.ofNames names)) :
    other.modified (Path.ofNames names) = tree.modified (Path.ofNames names) ∧
      other.read (Path.ofNames names) = tree.read (Path.ofNames names) := by
  rw [modified, modified, read, read, same]
  cases found : tree.find (Path.ofNames names) with
  | error failure => exact ⟨rfl, rfl⟩
  | ok result =>
      rcases result with ⟨location, entry⟩
      obtain rfl := sound.find_file plain held found
      exact ⟨rfl, rfl⟩

theorem CacheOutside.of_sameLinks {around : Location} {cachePath : Path}
    (outside : tree.CacheOutside around cachePath) (links : SameLinks tree other) :
    other.CacheOutside around cachePath :=
  fun third further => outside third (links.trans further)

end FileTree

namespace Ingestion.Account

open FileJob

variable {σ : Type} {services : Services σ} {session : Session} {configuration : Configuration}
  {before after : World σ} (account : Account services session configuration before after)

/-- The files of a run lie below the root under plain names. -/
theorem located (orderly : before.tree.Orderly account.root) :
    ∃ around, account.root = Path.ofNames around ∧ account.root.names = around ∧
      (∀ name ∈ around, Path.IsPlain name) ∧
      ∀ path ∈ account.files, ∃ rest content time, path = Path.ofNames (around ++ rest) ∧ rest ≠ [] ∧
        (∀ name ∈ around ++ rest, Path.IsPlain name) ∧ Unescaped rest ∧
        before.tree.get? (around ++ rest) = some (.file content time) := by
  have canonical := canonicalize_of_resolveRoot account.resolved
  rcases FileTree.canonicalize_eq_ok canonical with ⟨around, entry, reached, rooted⟩
  rcases orderly.sound.find_spec reached with ⟨⟨held, there, _⟩, legal⟩
  have plain := orderly.plain_of_get? there
  have names : account.root.names = around := by rw [rooted, Path.names_ofNames legal]
  refine ⟨around, rooted, names, plain, ?_⟩
  intro path member
  obtain ⟨rest, content, modified, rfl, nonempty, file⟩ :=
    account.exists_below orderly.sound plain rooted member
  have listed := FileTree.mem_of_get? (by simp [nonempty]) file
  have unescaped := orderly.unescaped _ listed (names ▸ List.prefix_append _ _)
  rw [names, List.drop_left] at unescaped
  exact ⟨rest, content, modified, rfl, nonempty, orderly.plain_of_get? file, unescaped, file⟩

/-- The relative paths of the files tell them apart. -/
theorem apart_of_orderly (orderly : before.tree.Orderly account.root) :
    (account.files.map (relativePath account.root)).Nodup := by
  rcases account.located orderly with ⟨around, rooted, _, plain, files⟩
  apply account.distinct.map_on
  intro first firstMember second secondMember same
  rcases files first firstMember with ⟨rest, _, _, rfl, nonempty, legal, unescaped, _⟩
  rcases files second secondMember with ⟨others, _, _, rfl, _, othersLegal, othersUnescaped, _⟩
  rw [rooted] at same
  rw [relativePath_injective (fun name member => (plain name member).1) nonempty
    (fun name member => (legal name (List.mem_append_right _ member)).1) unescaped
    (fun name member => (othersLegal name member).1) (fun _ => by rwa [List.drop_left]) same]

/-- A file that a log does not show in is seen as it was before the run. -/
theorem modified_read_seen (spares : session.Spares before.tree account.files) {path : Path}
    (member : path ∈ account.files) :
    (account.proceedings.seen path).modified path = before.tree.modified path ∧
      (account.proceedings.seen path).read path = before.tree.read path := by
  rcases account.describe.seen path member with ⟨count, seen⟩
  rw [seen]
  exact spares _ path member

/-- Saving a cache outside the root shows in no file. -/
theorem modified_read_after (orderly : before.tree.Orderly account.root)
    (untaken : before.tree.Untaken configuration.cachePath)
    (outside : before.tree.CacheOutside account.root.names configuration.cachePath)
    (spares : session.Spares before.tree account.files) {path : Path} (member : path ∈ account.files) :
    after.tree.modified path = before.tree.modified path ∧
      after.tree.read path = before.tree.read path := by
  rcases account.located orderly with ⟨around, _, names, _, files⟩
  rcases files path member with ⟨rest, content, time, rfl, _, plain, _, held⟩
  have records := spares (account.proceedings.records session) _ member
  rcases session.logged_spec (account.proceedings.records session) untaken.sound with ⟨sound, links⟩
  -- The log may have grown, but the file is still a file.
  obtain ⟨logged, loggedTime, still⟩ : ∃ logged loggedTime,
      (session.logged (account.proceedings.records session) before.tree).get? (around ++ rest) =
        some (.file logged loggedTime) :=
    (session.sameKinds_logged _ untaken.sound).exists_file held
  have found := Ledger.find_eq_of_saved (untaken.of_sameLinks sound links) account.saved
    (outside.of_sameLinks links) plain (names ▸ List.prefix_append _ _) still rfl
  rcases sound.modified_read_eq plain still found with ⟨modified, read⟩
  exact ⟨modified.trans records.1, read.trans records.2⟩

end Ingestion.Account

end SourceHarvest
