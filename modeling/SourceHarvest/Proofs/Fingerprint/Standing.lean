import SourceHarvest.Proofs.Fingerprint.Atomic

/-!
# What stands when a cache is saved

A cache that was found is no directory, and a link to it leads to none.  So when another cache takes its
place, all directories are still found where they were.  Nor are there new directories on the way to
such a cache, so its temporary file is not diverted unless its path is that of a link already.
-/

namespace SourceHarvest

namespace FileTree

/-- The other tree leads on wherever the tree does, up to a location which led to no directory. -/
structure KeepsDirectories (tree other : FileTree) (closed : Location) : Prop where
  workingDirectory : other.workingDirectory = tree.workingDirectory
  way : ∀ place, place ≠ closed → tree.way place ≠ .nowhere → other.way place = tree.way place
  calm : tree.way closed ≠ .onward
  barred : ∀ target, tree.way closed = .follow target → ∃ links location entry,
    entry.way = .nowhere ∧ Walks tree .followed links
      (if Path.isAbsolute ⟨target⟩ then [] else closed.dropLast) (steps ⟨target⟩)
      (.present location entry)

section Walks

variable {tree other : FileTree} {links others : Nat} {here : Location} {step : String}
  {front remaining : List String} {place goal : Place} {location closed : Location} {target : String}

/-- A walk that comes to a place comes to no other one, however many links may be followed. -/
theorem Walks.place_eq (first : Walks tree .followed links here remaining place)
    (second : Walks tree .followed others here remaining goal) : goal = place := by
  generalize mode : LastName.followed = last at first
  induction first generalizing others with
  | stay =>
      cases second
      rfl
  | pass void _ inductionHypothesis => exact inductionHypothesis (second.of_pass void)
  | up _ inductionHypothesis => exact inductionHypothesis second.of_up
  | into proper held _ inductionHypothesis =>
      exact inductionHypothesis
        (second.of_into proper.named proper.forth (way_of_get? held))
  | follow proper held _ _ inductionHypothesis =>
      cases second with
      | pass void => exact absurd void proper.named
      | up => exact absurd rfl proper.forth
      | into _ there | free _ there => cases held.symm.trans there
      | follow _ there _ further =>
          cases held.symm.trans there
          exact inductionHypothesis further
      | atLink _ _ itself => cases itself
      | atEntry _ there blocked =>
          cases held.symm.trans there
          cases blocked
  | atLink _ _ itself => exact LastName.noConfusion (mode.trans itself)
  | atEntry proper held blocked =>
      cases second with
      | pass void => exact absurd void proper.named
      | up => exact absurd rfl proper.forth
      | into _ there | follow _ there =>
          cases held.symm.trans there
          cases blocked
      | atLink _ _ itself => cases itself
      | atEntry _ there =>
          cases held.symm.trans there
          rfl
      | free _ there => cases held.symm.trans there
  | free proper held =>
      cases second with
      | pass void => exact absurd void proper.named
      | up => exact absurd rfl proper.forth
      | into _ there | follow _ there | atLink _ there | atEntry _ there => cases held.symm.trans there
      | free => rfl

/-- A walk to a directory comes there again. -/
theorem Walks.enters_again (keeps : KeepsDirectories tree other closed) {entry : Entry}
    (entered : entry.way = .onward)
    (walks : Walks tree .followed links here remaining (.present location entry)) :
    ∃ again, again.way = .onward ∧
      Walks other .followed links here remaining (.present location again) := by
  generalize mode : LastName.followed = last at walks
  generalize ended : Place.present location entry = place at walks
  induction walks with
  | stay links here =>
      cases ended
      exact ⟨.directory _, rfl, .stay links _⟩
  | pass void _ inductionHypothesis =>
      obtain ⟨again, onward, walks⟩ := inductionHypothesis ended
      exact ⟨again, onward, .pass void walks⟩
  | up _ inductionHypothesis =>
      obtain ⟨again, onward, walks⟩ := inductionHypothesis ended
      exact ⟨again, onward, .up walks⟩
  | into proper held _ inductionHypothesis =>
      obtain ⟨again, onward, walks⟩ := inductionHypothesis ended
      have leads := way_of_get? held
      have apart := keeps.way _ (fun same => keeps.calm (same ▸ leads)) (leads ▸ Way.noConfusion)
      obtain ⟨_, stays⟩ := get?_of_way_onward (apart.trans leads)
      exact ⟨again, onward, .into proper stays walks⟩
  | @follow _ around step rest _ proper target held followed further inductionHypothesis =>
      have linked := way_of_get? held
      by_cases there : around ++ [step] = closed
      · -- The link leads to no directory, and no way goes on behind what it leads to.
        subst there mode ended
        obtain ⟨_, _, _, blocked, leads⟩ := keeps.barred target linked
        rw [List.dropLast_concat] at leads
        by_cases more : rest = []
        · rw [more, List.append_nil] at further
          cases leads.place_eq further
          cases entered.symm.trans blocked
        · exact absurd further (leads.not_beyond blocked more _ _ _)
      · obtain ⟨again, onward, walks⟩ := inductionHypothesis ended
        have apart := keeps.way _ there (linked ▸ Way.noConfusion)
        exact ⟨again, onward, .follow proper (get?_of_way_follow (apart.trans linked)) followed walks⟩
  | atLink _ _ itself => exact LastName.noConfusion (mode.trans itself)
  | atEntry _ _ blocked =>
      cases ended
      cases entered.symm.trans blocked
  | free => cases ended

/-- A walk along a single name to a link comes there again where the link is still there. -/
theorem Walks.link_of_single (sameLinks : SameLinks tree other) (named : ¬ (step = "." ∨ step = ""))
    (forth : step ≠ "..") (walks : Walks other .itself links here [step] (.present location (.link target))) :
    Walks tree .itself links here [step] (.present location (.link target)) := by
  cases walks with
  | pass void => exact absurd void named
  | up => exact absurd rfl forth
  | into _ _ further => cases further
  | follow _ _ followed => exact absurd ⟨rfl, rfl⟩ followed
  | atLink proper held =>
      exact .atLink proper (get?_of_way_follow ((sameLinks.follow _ _).mp (way_of_get? held))) rfl
  | atEntry _ _ blocked => cases blocked

/-- What a walk to a name does up to this name it does in a tree that has grown.  So a link beside the
name is come to there only where it was before. -/
theorem Walks.link_beside {name : String} (grows : Grows tree other)
    (sameLinks : SameLinks tree other) (proper : ¬ (step = "." ∨ step = "") ∧ step ≠ "..")
    (named : ¬ (name = "." ∨ name = "")) (forth : name ≠ "..")
    (walks : Walks tree .itself links here (front ++ [step]) place)
    (linked : Walks other .itself links here (front ++ [name]) (.present location (.link target))) :
    Walks tree .itself links here (front ++ [name]) (.present location (.link target)) := by
  generalize mode : LastName.itself = last at walks
  generalize whole : front ++ [step] = remaining at walks
  have leads {around : Location} {way : Way} (here : tree.way around = way) (on : way ≠ .nowhere) :
      other.way around = way :=
    (grows.way around (here ▸ on)).trans here
  induction walks generalizing front with
  | stay => simp at whole
  | pass void _ inductionHypothesis =>
      cases front with
      | nil =>
          cases whole
          exact absurd void proper.1
      | cons first rest =>
          cases whole
          exact .pass void (inductionHypothesis (linked.of_pass void) rfl)
  | up _ inductionHypothesis =>
      cases front with
      | nil =>
          cases whole
          exact absurd rfl proper.2
      | cons first rest =>
          cases whole
          exact .up (inductionHypothesis linked.of_up rfl)
  | into entering held _ inductionHypothesis =>
      cases front with
      | nil =>
          subst mode
          exact linked.link_of_single sameLinks named forth
      | cons first rest =>
          cases whole
          subst mode
          have further := linked.of_into entering.named entering.forth
            (leads (way_of_get? held) Way.noConfusion)
          exact .into { entering with fillable := fun both => by cases both.1 } held
            (inductionHypothesis further rfl)
  | @follow _ _ _ _ _ entering through held _ _ inductionHypothesis =>
      cases front with
      | nil =>
          subst mode
          exact linked.link_of_single sameLinks named forth
      | cons first rest =>
          cases whole
          subst mode
          obtain ⟨_, same, further⟩ := linked.of_follow entering.named entering.forth (by simp)
            (leads (way_of_get? held) Way.noConfusion)
          cases same
          have again := inductionHypothesis (List.append_assoc (steps ⟨through⟩) rest [name] ▸ further)
            (List.append_assoc (steps ⟨through⟩) rest [step])
          rw [List.append_assoc] at again
          exact .follow { entering with fillable := fun both => by cases both.1 } held
            (fun both => by simp at both) again
  | atLink | atEntry | free =>
      cases front with
      | nil =>
          subst mode
          exact linked.link_of_single sameLinks named forth
      | cons first rest => simp at whole

end Walks

/-- What holds a link is the place of this link. -/
theorem Holds.eq_link {tree : FileTree} {place : Place} {target : String} (holds : tree.Holds place)
    (follow : tree.way place.location = .follow target) :
    place = .present place.location (.link target) := by
  cases place with
  | absent location => cases (way_absent holds).symm.trans follow
  | present location entry =>
      have same : entry.way = .follow target := holds.1.symm.trans follow
      cases entry with
      | link found =>
          cases same
          rfl
      | directory | file | fullDevice => cases same

/-- A directory is found where it was. -/
theorem KeepsDirectories.find_eq {tree other : FileTree} {closed location : Location}
    (keeps : KeepsDirectories tree other closed) {path : Path} {time : Int}
    (found : tree.find path = .ok (location, .directory time)) :
    ∃ now, other.find path = .ok (location, .directory now) := by
  obtain ⟨accepted, walks⟩ := resolve_eq_ok_iff.mp (find_eq_ok_iff.mp found)
  obtain ⟨again, onward, walks⟩ := walks.enters_again keeps rfl
  rw [start, ← keeps.workingDirectory, ← start] at walks
  cases again with
  | directory now => exact ⟨now, find_eq_ok_iff.mpr (resolve_eq_ok_iff.mpr ⟨accepted, walks⟩)⟩
  | file | link | fullDevice => cases onward

end FileTree

namespace Ledger

variable {ledger : Ledger} {cachePath path : Path} {tree after : FileTree} {location : Location}
  {content : ByteArray} {time : Int}

/-- Where a cache is found, its temporary file is diverted only if its path is that of a link. -/
theorem undiverted_of_find (sound : tree.Sound)
    (found : tree.find cachePath = .ok (location, .file content time))
    (plain : ∀ location target, tree.resolve .itself (temporaryPath cachePath) ≠
      .ok (.present location (.link target))) : tree.Undiverted cachePath := by
  intro place target taken
  have sameLinks := (prepared_spec sound cachePath).2
  have grows := FileTree.Grows.of_retains sameLinks.workingDirectory (retains_prepared sound cachePath)
  obtain ⟨there, entry, itself, calm⟩ := sound.resolve_itself_of_find found rfl
  have stands : tree.way there ≠ .onward := (sound.resolve_holds itself).1 ▸ calm
  obtain ⟨absolute, front, name, other, steps, otherSteps, _⟩ :=
    exists_steps_temporary sound itself stands
  obtain ⟨accepted, linked⟩ := FileTree.resolve_eq_ok_iff.mp taken
  have walks := (FileTree.resolve_eq_ok_iff.mp itself).2
  have begins : (prepared cachePath tree).2.start (temporaryPath cachePath) = tree.start cachePath := by
    rw [FileTree.start, FileTree.start, absolute, sameLinks.workingDirectory]
  rw [steps] at walks
  rw [otherSteps, begins] at linked
  have proper := walks.proper_last sound.nested (sound.way_start cachePath) stands
  have blocked : (prepared cachePath tree).2.way place ≠ .onward := by
    rw [(((prepared_spec sound cachePath).1.resolve_holds taken).1 : _ = Way.follow target)]
    exact Way.noConfusion
  have onward := (grows.way (tree.start cachePath)
    (sound.way_start cachePath ▸ Way.noConfusion)).trans (sound.way_start cachePath)
  obtain ⟨named, forth⟩ := linked.proper_last (prepared_spec sound cachePath).1.nested onward blocked
  have there := walks.link_beside grows sameLinks proper named forth linked
  rw [FileTree.start, ← absolute, ← FileTree.start, ← otherSteps] at there
  exact plain place target (FileTree.resolve_eq_ok_iff.mpr ⟨accepted, there⟩)

variable (sound : tree.Sound) (undiverted : tree.Undiverted cachePath)
  (found : tree.find cachePath = .ok (location, .file content time))
  (saved : ledger.save cachePath tree = (.ok (), after))

include sound undiverted saved in
/-- Saving makes no links. -/
theorem follow_of_save {place : Location} {target : String} (follow : after.way place = .follow target) :
    tree.way place = .follow target := by
  obtain ⟨written, _, goal, -, -, replaces⟩ := exists_replaces_of_plain sound undiverted saved
  have apart : place ≠ goal.location := by
    rintro rfl
    cases follow.symm.trans (FileTree.way_of_get? replaces.changes.held)
  rw [replaces.changes.way place apart, replaces.links.follow,
    (prepared_spec sound cachePath).2.follow] at follow
  exact follow

include sound undiverted saved in
/-- Once a cache is saved, the path of its temporary file is not that of a link. -/
theorem plain_after_save (place : Location) (target : String) :
    after.resolve .itself (temporaryPath cachePath) ≠ .ok (.present place (.link target)) := by
  intro taken
  obtain ⟨_, _, _, -, renamed, replaces⟩ := exists_replaces_of_plain sound undiverted saved
  cases replaces.eq_absent_temporary renamed taken

include sound undiverted found saved in
/-- A directory is found where it was when another cache takes the place of one that was found. -/
theorem find_directory_of_save {around : Location} {modified : Int}
    (standing : tree.find path = .ok (around, .directory modified)) :
    ∃ now, after.find path = .ok (around, .directory now) := by
  obtain ⟨written, _, goal, wrote, -, replaces⟩ := exists_replaces_of_plain sound undiverted saved
  obtain ⟨ready, links⟩ := prepared_spec sound cachePath
  have ways := ready.way_write (isEmpty_encode ledger) wrote
  have grows := FileTree.Grows.of_retains links.workingDirectory (retains_prepared sound cachePath)
  have blocked : tree.way location = .nowhere :=
    (sound.resolve_holds (FileTree.find_eq_ok_iff.mp found)).1
  have made : FileTree.KeepsDirectories tree (prepared cachePath tree).2 location :=
    { workingDirectory := grows.workingDirectory
      way := fun place _ leads => grows.way place leads
      calm := Way.ne_onward_of_nowhere blocked
      barred := fun target linked => by cases blocked.symm.trans linked }
  obtain ⟨_, standing⟩ := made.find_eq standing
  have replaced : FileTree.KeepsDirectories (prepared cachePath tree).2 after goal.location :=
    { workingDirectory := replaces.changes.workingDirectory.trans replaces.links.workingDirectory
      way := fun place apart _ => (replaces.changes.way place apart).trans (ways place)
      calm := ways goal.location ▸ replaces.calm
      barred := fun target linked => by
        have follow := (ways goal.location).trans linked
        have whole := (replaces.writtenSound.resolve_holds replaces.found).eq_link follow
        have itself := FileTree.resolve_link_of_closes
          ⟨replaces.links.workingDirectory.symm, fun place _ => (ways place).symm, replaces.nowhere⟩
          ((ways _).trans replaces.nowhere) (whole ▸ replaces.found)
        have walks := (FileTree.resolve_eq_ok_iff.mp itself).2
        obtain ⟨links, behind⟩ := walks.behind_link (FileTree.resolve_eq_ok_iff.mp
          (FileTree.find_eq_ok_iff.mp (find_prepared sound cachePath found))).2
        exact ⟨links, location, _, rfl, behind⟩ }
  exact replaced.find_eq standing

end Ledger

end SourceHarvest
