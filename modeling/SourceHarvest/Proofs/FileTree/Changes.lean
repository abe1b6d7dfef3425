import SourceHarvest.Proofs.FileTree.Sound
import Mathlib.Logic.Relation

/-!
# What writing changes

Writing and renaming change one location each, and only where nothing led on.  Making
directories adds directories at free names.  None of them touches a link, so the way to
every other file stays what it was.
-/

namespace SourceHarvest.FileTree

/-- Two trees have the same links and the same working directory. -/
structure SameLinks (tree other : FileTree) : Prop where
  workingDirectory : other.workingDirectory = tree.workingDirectory
  follow : ∀ location target, other.way location = .follow target ↔ tree.way location = .follow target

theorem SameLinks.refl (tree : FileTree) : SameLinks tree tree :=
  ⟨rfl, fun _ _ => Iff.rfl⟩

theorem SameLinks.trans {tree middle other : FileTree} (first : SameLinks tree middle)
    (second : SameLinks middle other) : SameLinks tree other :=
  ⟨second.workingDirectory.trans first.workingDirectory,
    fun location target => (second.follow location target).trans (first.follow location target)⟩

/-- A change at a location that is no link, to what is no link, leaves the links alone. -/
theorem Changes.sameLinks {tree after : FileTree} {location : Location} {found : Option Entry}
    (changes : Changes tree after location found) (before : ∀ target, tree.way location ≠ .follow target)
    (later : ∀ target, after.way location ≠ .follow target) : SameLinks tree after where
  workingDirectory := changes.workingDirectory
  follow other target := by
    by_cases same : other = location
    · subst same
      exact ⟨fun follow => absurd follow (later target), fun follow => absurd follow (before target)⟩
    · rw [changes.way other same]

variable {tree : FileTree} {path : Path} {place : Place}

/-- A place lies in a directory under proper names, unless it is a directory itself. -/
theorem Sound.place_spec (sound : tree.Sound) (holds : tree.Holds place)
    (calm : tree.way place.location ≠ .onward) :
    tree.way place.location.dropLast = .onward ∧
      ∀ name ∈ place.location, Path.IsName name := by
  cases place with
  | present location entry =>
      have held := holds.2 fun onward => calm (holds.1.trans onward)
      exact ⟨sound.nested _ _ held, sound.named_of_get? held⟩
  | absent location =>
      rcases holds with ⟨free, around, inner, name, rfl, legal⟩
      refine ⟨around, fun step member => ?_⟩
      rcases List.mem_append.mp member with outer | here
      · rw [List.dropLast_concat] at around
        rcases get?_of_way_onward around with ⟨time, held⟩
        exact sound.named_of_get? held step outer
      · obtain rfl := List.mem_singleton.mp here
        exact legal

theorem way_absent {location : Location} (holds : tree.Holds (.absent location)) :
    tree.way location = .nowhere := by
  rw [way, holds.1]

/-- A free place can take an entry. -/
theorem Sound.enter_absent (sound : tree.Sound) {location : Location}
    (holds : tree.Holds (.absent location)) (entry : Entry) : (tree.enter location entry).Sound := by
  have free := way_absent holds
  rcases sound.place_spec holds (Way.ne_onward_of_nowhere free) with ⟨around, named⟩
  exact sound.enter (ne_nil_of_way_nowhere free) named around fun onward => by
    cases onward.symm.trans free

/-- What is filled with bytes leads nowhere. -/
theorem Sound.placeToWrite_spec (sound : tree.Sound) (placed : tree.placeToWrite path = .ok place) :
    tree.resolve .filled path = .ok place ∧ tree.way place.location = .nowhere := by
  simp only [placeToWrite] at placed
  cases resolved : tree.resolve .filled path with
  | error failure =>
      rw [resolved] at placed
      cases placed
  | ok found =>
      rw [resolved] at placed
      have holds := sound.resolve_holds resolved
      cases found with
      | absent location =>
          cases placed
          exact ⟨rfl, way_absent holds⟩
      | present location entry =>
          cases entry with
          | directory time => cases placed
          | file content time =>
              cases placed
              exact ⟨rfl, holds.1⟩
          | fullDevice =>
              cases placed
              exact ⟨rfl, holds.1⟩
          | link target => cases (resolve_eq_ok_iff.mp resolved).2.itself_of_link

/-- Writing bytes puts a file where nothing led on. -/
theorem Sound.write_spec (sound : tree.Sound) {content : ByteArray} (nonempty : content.isEmpty = false)
    {after : FileTree} (written : tree.write path content = .ok after) :
    ∃ place, tree.resolve .filled path = .ok place ∧ tree.way place.location = .nowhere ∧
      after.Sound ∧ Changes tree after place.location (some (.file content tree.clock)) := by
  simp only [write] at written
  cases placed : tree.placeToWrite path with
  | error failure =>
      rw [placed] at written
      cases written
  | ok place =>
      rw [placed] at written
      rcases sound.placeToWrite_spec placed with ⟨resolved, nowhere⟩
      have holds := sound.resolve_holds resolved
      have inside := ne_nil_of_way_nowhere nowhere
      refine ⟨place, rfl.trans resolved, nowhere, ?_⟩
      cases place with
      | absent location =>
          cases written
          exact ⟨sound.enter_absent holds _, changes_enter _ inside Way.noConfusion⟩
      | present location entry =>
          have held : tree.get? location = some entry := holds.2 fun onward => by
            cases (holds.1.trans onward).symm.trans nowhere
          have file : (tree.put location (.file content tree.clock)).Sound :=
            sound.put inside (sound.named_of_get? held) (sound.nested _ _ held) fun onward => by
              cases onward.symm.trans nowhere
          cases entry with
          | fullDevice =>
              simp only [bind, Except.bind, nonempty] at written
              cases written
          | file | directory | link =>
              cases written
              exact ⟨file, changes_put inside⟩

/-- A directory is made at a free name. -/
def Furnishes (tree next : FileTree) : Prop :=
  ∃ location, tree.Holds (.absent location) ∧ next = tree.enter location (.directory tree.clock)

theorem Furnishes.sameLinks {next : FileTree} (furnishes : Furnishes tree next) :
    SameLinks tree next := by
  obtain ⟨location, holds, rfl⟩ := furnishes
  have free := way_absent holds
  refine ⟨workingDirectory_renewAround, fun other target => ?_⟩
  rw [FileTree.enter, way_renewAround, way_put (ne_nil_of_way_nowhere free)]
  split
  · rename_i same
    rw [same, free]
    constructor <;> (intro impossible; cases impossible)
  · rfl

theorem SameLinks.of_furnishings {after : FileTree}
    (furnishings : Relation.ReflTransGen Furnishes tree after) : SameLinks tree after := by
  induction furnishings with
  | refl => exact .refl tree
  | tail _ furnishes inductionHypothesis => exact inductionHypothesis.trans furnishes.sameLinks

theorem Sound.of_furnishings (sound : tree.Sound) {after : FileTree}
    (furnishings : Relation.ReflTransGen Furnishes tree after) : after.Sound := by
  induction furnishings with
  | refl => exact sound
  | tail _ furnishes inductionHypothesis =>
      obtain ⟨location, holds, rfl⟩ := furnishes
      exact inductionHypothesis.enter_absent holds _

theorem Sound.furnishes_makeDirectory (sound : tree.Sound) {after : FileTree}
    (made : tree.makeDirectory path = .ok after) : Furnishes tree after := by
  simp only [makeDirectory] at made
  cases resolved : tree.resolve .itself (withoutFinalSlashes path) with
  | error failure =>
      rw [resolved] at made
      cases made
  | ok place =>
      rw [resolved] at made
      have holds := sound.resolve_holds resolved
      cases place with
      | present => cases made
      | absent location =>
          cases made
          exact ⟨location, holds, rfl⟩

theorem Sound.furnishings_ensureDirectory (sound : tree.Sound) {after : FileTree}
    (ensured : tree.ensureDirectory path = .ok after) :
    Relation.ReflTransGen Furnishes tree after := by
  unfold ensureDirectory at ensured
  split at ensured
  · split at ensured
    · cases ensured
      exact .refl
    · cases ensured
  · exact .single (sound.furnishes_makeDirectory ensured)

theorem Sound.furnishings_ensureDirectories (sound : tree.Sound) (paths : List Path) :
    Relation.ReflTransGen Furnishes tree (tree.ensureDirectories paths).2 := by
  induction paths generalizing tree with
  | nil => exact .refl
  | cons path rest inductionHypothesis =>
      unfold ensureDirectories
      cases ensured : tree.ensureDirectory path with
      | error failure => exact .refl
      | ok next =>
          have first := sound.furnishings_ensureDirectory ensured
          exact first.trans (inductionHypothesis (sound.of_furnishings first))

/-- All that comes of making directories is directories at free names, one after the other. -/
theorem Sound.furnishings_makeDirectories (sound : tree.Sound) (path : Path) :
    Relation.ReflTransGen Furnishes tree (tree.makeDirectories path).2 := by
  rw [makeDirectories]
  split
  · exact sound.furnishings_ensureDirectories _
  · exact .refl

/-- Making directories leaves the links alone. -/
theorem Sound.makeDirectories_spec (sound : tree.Sound) (path : Path) :
    (tree.makeDirectories path).2.Sound ∧ SameLinks tree (tree.makeDirectories path).2 := by
  have furnishings := sound.furnishings_makeDirectories path
  exact ⟨sound.of_furnishings furnishings, .of_furnishings furnishings⟩

/-- An entry that does not lead on can be moved to a place that is no directory. -/
theorem Sound.move_spec (sound : tree.Sound) {location : Location} {entry : Entry}
    (nowhere : tree.way location = .nowhere) (blocked : entry.way = .nowhere)
    (holds : tree.Holds place) (calm : tree.way place.location ≠ .onward) :
    (((tree.erase location).renewAround location).enter place.location entry).Sound ∧
      Changes tree (((tree.erase location).renewAround location).enter place.location entry)
        place.location (some entry) := by
  rcases sound.place_spec holds calm with ⟨around, named⟩
  have inside : place.location ≠ [] := by
    intro root
    rw [root] at calm
    exact calm (way_root tree)
  have erased (other : Location) :
      ((tree.erase location).renewAround location).way other = tree.way other := by
    rw [way_renewAround]
    by_cases same : other = location
    · rw [same, way, get?_erase_of_blocked sound nowhere, if_pos rfl, nowhere]
    · exact (changes_erase sound nowhere).way other same
  have entered := changes_enter ((tree.erase location).renewAround location) inside
    (Way.ne_onward_of_nowhere blocked)
  constructor
  · refine (sound.erase nowhere).renewAround.enter inside named ?_ ?_
    · rw [erased, around]
    · intro onward
      exact absurd ((erased _).symm.trans onward) calm
  · exact
      { workingDirectory := entered.workingDirectory.trans workingDirectory_renewAround
        held := entered.held
        way := fun other apart => (entered.way other apart).trans (erased other) }

/-- A file that is renamed comes to another location, in place of what did not lead on; its own
location leads nowhere, as before. -/
theorem Sound.rename_spec (sound : tree.Sound) {source target : Path} {after : FileTree}
    {location : Location} {entry : Entry}
    (resolved : tree.resolve .itself source = .ok (.present location entry))
    (blocked : entry.way = .nowhere) (renamed : tree.rename source target = .ok after) :
    ∃ place, tree.resolve .itself target = .ok place ∧ tree.way place.location ≠ .onward ∧
      after.Sound ∧ Changes tree after place.location (some entry) := by
  have holds := sound.resolve_holds resolved
  have held : tree.get? location = some entry := holds.2 (Way.ne_onward_of_nowhere blocked)
  have nowhere : tree.way location = .nowhere := holds.1.trans blocked
  simp only [rename, resolved, bind, Except.bind] at renamed
  cases found : tree.resolve .itself (withoutFinalSlashes target) with
  | error failure =>
      rw [found] at renamed
      cases renamed
  | ok place =>
      rw [found] at renamed
      have placeHolds := sound.resolve_holds found
      simp only at renamed
      split at renamed
      · cases renamed
      split at renamed
      · cases renamed
      · rename_i bare
        rw [not_not.mp bare] at found
        -- What is in the way may be a link or a file, but no directory.
        have settled (chosen : (if place.location = location then .ok tree else
              .ok (((tree.erase location).renewAround location).enter place.location entry) :
            Except FileError FileTree) = .ok after)
            (calm : tree.way place.location ≠ .onward) :
            after.Sound ∧ Changes tree after place.location (some entry) := by
          split at chosen
          · rename_i same
            cases chosen
            exact ⟨sound, rfl, same ▸ held, fun _ _ => rfl⟩
          · cases chosen
            exact sound.move_spec nowhere blocked placeHolds calm
        obtain ⟨calm, chosen⟩ : tree.way place.location ≠ .onward ∧
            (if place.location = location then .ok tree else
              .ok (((tree.erase location).renewAround location).enter place.location entry) :
            Except FileError FileTree) = .ok after := by
          cases place with
          | absent => exact ⟨Way.ne_onward_of_nowhere (way_absent placeHolds), renamed⟩
          | present location other =>
              cases other with
              | directory time => cases renamed
              | file | fullDevice => exact ⟨Way.ne_onward_of_nowhere placeHolds.1, renamed⟩
              | link target =>
                  exact ⟨fun onward => (by cases placeHolds.1.symm.trans onward), renamed⟩
        exact ⟨place, found, calm, settled chosen calm⟩

/-- Adding bytes to a file leaves all ways as they are. -/
theorem Sound.append_spec (sound : tree.Sound) {content : ByteArray} {after : FileTree}
    (longer : tree.append path content = .ok after) :
    after.Sound ∧ after.workingDirectory = tree.workingDirectory ∧
      ∀ location, after.way location = tree.way location := by
  simp only [append] at longer
  cases found : tree.find path with
  | error failure =>
      rw [found] at longer
      cases longer
  | ok result =>
      rcases result with ⟨location, entry⟩
      rw [found] at longer
      cases entry with
      | directory | link | fullDevice => cases longer
      | file held time =>
          cases longer
          have holds := sound.resolve_holds (find_eq_ok_iff.mp found)
          have nowhere : tree.way location = .nowhere := holds.1
          have kept := holds.2 Way.noConfusion
          refine ⟨sound.put (ne_nil_of_way_nowhere nowhere) (sound.named_of_get? kept)
            (sound.nested _ _ kept) (fun onward => by cases onward.symm.trans nowhere), rfl, ?_⟩
          intro other
          rw [way_put (ne_nil_of_way_nowhere nowhere)]
          split
          · rename_i same
            rw [same, nowhere]
            rfl
          · rfl

end SourceHarvest.FileTree
