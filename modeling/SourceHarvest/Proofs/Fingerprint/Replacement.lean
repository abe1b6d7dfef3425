import SourceHarvest.Proofs.FileTree.Retaining
import SourceHarvest.Proofs.Fingerprint.Persistence

/-!
# Replacing a cache

A cache can be a link: then the link goes, and the new cache stands in its place.  What was saved is
loaded again all the same, as long as no link at the place of the cache is needed to get there.
Nothing but the cache and its temporary file changes.
-/

namespace SourceHarvest

/-- The tree is sound, and however directories come and go, the name of the temporary file of a cache
is not taken by a link. -/
structure FileTree.Untaken (tree : FileTree) (cachePath : Path) : Prop where
  sound : tree.Sound
  temporary : ∀ other : FileTree, FileTree.SameLinks tree other → ∀ location target,
    other.resolve .itself (Ledger.temporaryPath cachePath) ≠ .ok (.present location (.link target))

/-- A cache can be replaced at a path: the name of its temporary file is free, and however directories
come and go, a file in place of a link at the path of the cache is found under that path. -/
structure FileTree.Hosts (tree : FileTree) (cachePath : Path) : Prop
    extends FileTree.Untaken tree cachePath where
  standing : ∀ other : FileTree, FileTree.SameLinks tree other → ∀ location target,
    other.resolve .itself cachePath = .ok (.present location (.link target)) → ∀ content time,
    (other.put location (.file content time)).find cachePath = .ok (location, .file content time)

/-- However directories come and go, neither the cache nor its temporary file lies below a
location. -/
def FileTree.CacheOutside (tree : FileTree) (around : Location) (cachePath : Path) : Prop :=
  ∀ other : FileTree, FileTree.SameLinks tree other → ∀ place,
    other.resolve .itself cachePath = .ok place ∨
      other.resolve .itself (Ledger.temporaryPath cachePath) = .ok place →
    ¬ around <+: place.location

namespace FileTree

variable {tree other : FileTree} {cachePath : Path}

/-- Where the cache is never a link, it can be replaced. -/
theorem Keeps.hosts (keeps : tree.Keeps cachePath) : tree.Hosts cachePath where
  sound := keeps.sound
  temporary other links location target := (keeps.plain other links location target).2
  standing other links location target linked :=
    absurd linked (keeps.plain other links location target).1

theorem Untaken.of_sameLinks (untaken : tree.Untaken cachePath) (sound : other.Sound)
    (links : FileTree.SameLinks tree other) : other.Untaken cachePath where
  sound := sound
  temporary third further := untaken.temporary third (links.trans further)

theorem Hosts.of_sameLinks (hosts : tree.Hosts cachePath) (sound : other.Sound)
    (links : FileTree.SameLinks tree other) : other.Hosts cachePath where
  toUntaken := hosts.toUntaken.of_sameLinks sound links
  standing third further := hosts.standing third (links.trans further)

/-- A cache at a path of plain names outside a location, with no link on the way, is outside it. -/
theorem CacheOutside.of_names {around : Location} {names temporary : List String}
    (temporaryPath : Ledger.temporaryPath (Path.ofNames names) = Path.ofNames temporary)
    (plain : ∀ path ∈ [names, temporary], path ≠ [] ∧ (∀ name ∈ path, Path.IsPlain name) ∧
      ¬ around <+: path ∧ tree.Unlinked [] path) :
    tree.CacheOutside around (Path.ofNames names) := by
  intro other links place resolved
  have outside (path : List String) (member : path ∈ [names, temporary])
      (found : other.resolve .itself (Path.ofNames path) = .ok place) :
      ¬ around <+: place.location := by
    rcases plain path member with ⟨nonempty, legal, apart, free⟩
    have same := (FileTree.resolve_ofNames_spec nonempty legal
      (free.of_around (links.around around) apart) found).1
    rwa [same]
  rcases resolved with found | found
  · exact outside names (by simp) found
  · exact outside temporary (by simp) (temporaryPath ▸ found)

end FileTree

namespace Ledger

variable {ledger : Ledger} {cachePath : Path} {tree after : FileTree}

section Replaces

variable {written : FileTree} {content : ByteArray} {place goal : FileTree.Place}

/-- The cache that was put in place is found, where no link was there. -/
theorem Replaces.find_eq_of_unlinked
    (replaces : Replaces tree written after cachePath content place goal)
    (unlinked : ∀ location target, goal ≠ .present location (.link target)) :
    after.find cachePath = .ok (goal.location, .file content tree.clock) :=
  FileTree.find_eq_ok_iff.mpr (replaces.writtenSound.resolve_transfer replaces.found
    (replaces.nowhere_of_unlinked unlinked) replaces.changes rfl (.inr rfl))

/-- The cache that was put in place is found, also where it took the place of a link. -/
theorem Replaces.find_eq (hosts : tree.Hosts cachePath)
    (replaces : Replaces tree written after cachePath content place goal) :
    after.find cachePath = .ok (goal.location, .file content tree.clock) := by
  by_cases linked : ∃ location target, goal = .present location (.link target)
  · rcases linked with ⟨location, target, rfl⟩
    have held : written.get? location = some (.link target) :=
      (replaces.writtenSound.resolve_holds replaces.found).2 Way.noConfusion
    have inside : location ≠ [] := by
      rintro rfl
      cases held
    -- The walk through the tree with a file in place of the link is that through the tree after.
    have stands := hosts.standing written replaces.links location target replaces.found content
      tree.clock
    have putSound : (written.put location (.file content tree.clock)).Sound :=
      replaces.writtenSound.put inside (replaces.writtenSound.named_of_get? held)
        (replaces.writtenSound.nested _ _ held) fun onward => absurd onward replaces.calm
    have put : FileTree.Changes written (written.put location (.file content tree.clock)) location
        (some (.file content tree.clock)) := FileTree.changes_put inside
    have changes : FileTree.Changes (written.put location (.file content tree.clock)) after location
        (some (.file content tree.clock)) :=
      { workingDirectory := replaces.changes.workingDirectory
        held := replaces.changes.held
        way := fun other distinct => by rw [replaces.changes.way other distinct, put.way other distinct] }
    exact FileTree.find_eq_ok_iff.mpr (putSound.resolve_transfer
      (FileTree.find_eq_ok_iff.mp stands) (FileTree.way_of_get? put.held) changes rfl (.inl rfl))
  · exact replaces.find_eq_of_unlinked fun location target same => linked ⟨location, target, same⟩

end Replaces

/-- Saving replaces the cache, once the directories around it were made, if the path of its temporary
file is not that of a link then. -/
theorem exists_replaces_of_plain (sound : tree.Sound)
    (plain : ∀ location target, (prepared cachePath tree).2.resolve .itself (temporaryPath cachePath) ≠
      .ok (.present location (.link target)))
    (saved : ledger.save cachePath tree = (.ok (), after)) :
    ∃ written place goal, (prepared cachePath tree).2.write (temporaryPath cachePath)
        ledger.encode.toUTF8 = .ok written ∧
      written.rename (temporaryPath cachePath) cachePath = .ok after ∧
      Replaces (prepared cachePath tree).2 written after cachePath ledger.encode.toUTF8 place goal := by
  obtain ⟨written, wrote, renamed⟩ := save_eq_ok saved
  obtain ⟨place, goal, replaces⟩ := exists_replaces (isEmpty_encode ledger)
    (prepared_spec sound cachePath).1 plain wrote renamed
  exact ⟨written, place, goal, wrote, renamed, replaces⟩

theorem exists_replaces_of_save (untaken : tree.Untaken cachePath)
    (saved : ledger.save cachePath tree = (.ok (), after)) :
    ∃ written place goal, (prepared cachePath tree).2.write (temporaryPath cachePath)
        ledger.encode.toUTF8 = .ok written ∧
      written.rename (temporaryPath cachePath) cachePath = .ok after ∧
      Replaces (prepared cachePath tree).2 written after cachePath ledger.encode.toUTF8 place goal :=
  exists_replaces_of_plain untaken.sound
    (untaken.temporary _ (prepared_spec untaken.sound cachePath).2) saved

theorem sound_of_save (untaken : tree.Untaken cachePath)
    (saved : ledger.save cachePath tree = (.ok (), after)) : after.Sound := by
  obtain ⟨_, _, _, -, -, replaces⟩ := exists_replaces_of_save untaken saved
  exact replaces.sound

/-- A ledger that was saved is what is loaded next, also where the cache was a link. -/
theorem load_of_replaced (hosts : tree.Hosts cachePath)
    (saved : ledger.save cachePath tree = (.ok (), after)) :
    load after cachePath = .ok (decode ledger.encode) ∧ after.Sound := by
  rcases prepared_spec hosts.sound cachePath with ⟨sound, links⟩
  obtain ⟨written, place, goal, -, -, replaces⟩ := exists_replaces_of_save hosts.toUntaken saved
  exact ⟨load_of_find (replaces.find_eq (hosts.of_sameLinks sound links)), replaces.sound⟩

/-- Making the directories around a cache leaves everything in place. -/
theorem retains_prepared (sound : tree.Sound) (cachePath : Path) (location : Location) :
    FileTree.Retains tree (prepared cachePath tree).2 location := by
  rw [prepared]
  split
  · exact sound.retains_makeDirectories _
  · exact .refl tree location

/-- Saving leaves directories in place, and all else that is neither the cache nor its temporary
file. -/
theorem retains_save (untaken : tree.Untaken cachePath)
    (saved : ledger.save cachePath tree = (.ok (), after)) {location : Location}
    (apart : tree.way location = .onward ∨ ∃ around, around <+: location ∧
      tree.CacheOutside around cachePath) :
    FileTree.Retains tree after location := by
  rcases prepared_spec untaken.sound cachePath with ⟨sound, links⟩
  obtain ⟨written, place, goal, wrote, renamed, replaces⟩ := exists_replaces_of_save untaken saved
  have made := retains_prepared untaken.sound cachePath location
  have distinct : location ≠ place.location ∧ location ≠ goal.location := by
    rcases apart with onward | ⟨around, inside, outside⟩
    · rcases FileTree.get?_of_way_onward onward with ⟨time, held⟩
      have stays := (made _ held).1
      rcases FileTree.get?_of_way_onward stays with ⟨later, there⟩
      have directory : (prepared cachePath tree).2.way location ≠ .nowhere := by
        rw [stays]
        exact Way.noConfusion
      have apartPlace : location ≠ place.location := fun same => directory (same ▸ replaces.nowhere)
      have kept := (sound.spares_write replaces.filled wrote apartPlace).retains _ there
      exact ⟨apartPlace, fun same => replaces.calm (same ▸ kept.1)⟩
    · exact ⟨fun same => outside _ links place (.inr replaces.itself) (same ▸ inside),
        fun same => outside _ (links.trans replaces.links) goal (.inl replaces.found) (same ▸ inside)⟩
  exact (made.trans (sound.spares_write replaces.filled wrote distinct.1).retains).trans
    (replaces.writtenSound.spares_rename replaces.moved rfl replaces.found renamed distinct.1
      distinct.2).retains

/-- Saving shows in no file of plain names below a location that the cache is outside of. -/
theorem find_eq_of_saved (untaken : tree.Untaken cachePath)
    (saved : ledger.save cachePath tree = (.ok (), after)) {around : Location}
    (outside : tree.CacheOutside around cachePath) {names : List String}
    (plain : ∀ name ∈ names, Path.IsPlain name) (inside : around <+: names) {entry : Entry}
    (held : tree.get? names = some entry) (blocked : entry.way = .nowhere) :
    after.find (Path.ofNames names) = tree.find (Path.ofNames names) := by
  have nonempty := FileTree.ne_nil_of_way_nowhere ((FileTree.way_of_get? held).trans blocked)
  refine untaken.sound.find_eq_of_retains plain nonempty held blocked fun part within => ?_
  apply retains_save untaken saved
  by_cases whole : part = names
  · exact .inr ⟨around, whole ▸ inside, outside⟩
  · -- What lies around the file is a directory.
    have outer : part <+: names.dropLast := by
      rcases within with ⟨rest, rfl⟩
      have more : rest ≠ [] := fun none => whole (by rw [none, List.append_nil])
      rw [List.dropLast_append_of_ne_nil more]
      exact List.prefix_append _ _
    exact .inl (untaken.sound.nested.onward_of_prefix outer (untaken.sound.nested _ _ held))

end Ledger

end SourceHarvest
