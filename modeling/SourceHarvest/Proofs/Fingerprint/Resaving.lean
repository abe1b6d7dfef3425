import SourceHarvest.Proofs.FileTree.Kinds
import SourceHarvest.Proofs.Fingerprint.Replacement

/-!
# Saving a cache twice

A cache can be a link that its own path leads over.  Such a cache is replaced and not found again.
But then it cannot be saved again either: a file is in the way now.  So where saving succeeds a second
time, what was saved before was found.
-/

namespace SourceHarvest

namespace FileTree

/-- Every link of the other tree is a link of the tree, and where a link is gone nothing leads on. -/
structure Unlinks (tree other : FileTree) : Prop where
  workingDirectory : other.workingDirectory = tree.workingDirectory
  follow : ∀ location target, other.way location = .follow target → tree.way location = .follow target
  gone : ∀ location target, tree.way location = .follow target →
    other.way location = .follow target ∨ other.way location = .nowhere

section Walks

variable {tree other third : FileTree} {links : Nat} {here : Location} {step : String}
  {rest remaining : List String} {place goal : Place}

/-- A walk to a last name itself goes on through a directory or a link, or ends. -/
theorem Walks.proper_cases {last : LastName} (proper : Proper last step rest)
    (walks : Walks tree .itself links here (step :: rest) goal) :
    (tree.way (here ++ [step]) = .onward ∧ Walks tree .itself links (here ++ [step]) rest goal) ∨
    (∃ fewer target, links = fewer + 1 ∧ tree.way (here ++ [step]) = .follow target ∧ rest ≠ [] ∧
      Walks tree .itself fewer (if Path.isAbsolute ⟨target⟩ then [] else here)
        (steps ⟨target⟩ ++ rest) goal) ∨
    (rest = [] ∧ tree.way (here ++ [step]) ≠ .onward ∧ goal.location = here ++ [step]) := by
  cases walks with
  | pass void => exact absurd void proper.named
  | up => exact absurd rfl proper.forth
  | into _ held further => exact .inl ⟨way_of_get? held, further⟩
  | follow _ held followed further =>
      exact .inr (.inl ⟨_, _, rfl, way_of_get? held, fun ended => followed ⟨ended, rfl⟩, further⟩)
  | atLink _ held =>
      refine .inr (.inr ⟨rfl, ?_, rfl⟩)
      rw [way_of_get? held]
      exact Way.noConfusion
  | atEntry _ held blocked =>
      exact .inr (.inr ⟨rfl, Way.ne_onward_of_nowhere ((way_of_get? held).trans blocked), rfl⟩)
  | free _ held =>
      refine .inr (.inr ⟨rfl, ?_, rfl⟩)
      rw [way, held]
      exact Way.noConfusion

theorem Walks.location_of_nil {last : LastName} (walks : Walks tree last links here [] place) :
    place.location = here := by
  cases walks
  rfl

/-- A walk that comes to a place at all comes to the same one when links are gone. -/
theorem Walks.location_eq_of_unlinks (unlinks : Unlinks tree other)
    (walks : Walks tree .itself links here remaining place)
    (otherWalks : Walks other .itself links here remaining goal) :
    goal.location = place.location := by
  generalize mode : LastName.itself = last at walks
  induction walks with
  | stay => exact otherWalks.location_of_nil
  | pass void _ inductionHypothesis =>
      cases otherWalks with
      | pass _ further => exact inductionHypothesis further
      | up => simp at void
      | into proper | follow proper | atLink proper | atEntry proper | free proper =>
          exact absurd void proper.named
  | up _ inductionHypothesis =>
      cases otherWalks with
      | pass void => simp at void
      | up further => exact inductionHypothesis further
      | into proper | follow proper | atLink proper | atEntry proper | free proper =>
          exact absurd rfl proper.forth
  | into proper held further inductionHypothesis =>
      rcases otherWalks.proper_cases proper with ⟨_, later⟩ | ⟨_, _, _, follow, _⟩ | ⟨rfl, _, ended⟩
      · exact inductionHypothesis later
      · cases (way_of_get? held).symm.trans (unlinks.follow _ _ follow)
      · exact ended.trans further.location_of_nil.symm
  | follow proper held followed _ inductionHypothesis =>
      have linked := way_of_get? held
      rcases otherWalks.proper_cases proper with ⟨onward, _⟩ | ⟨_, _, same, follow, _, later⟩ |
        ⟨ended, _⟩
      · rcases unlinks.gone _ _ linked with follow | nowhere
        · cases onward.symm.trans follow
        · cases onward.symm.trans nowhere
      · cases same
        cases linked.symm.trans (unlinks.follow _ _ follow)
        exact inductionHypothesis later
      · exact absurd ⟨ended, mode.symm⟩ followed
  | atLink proper held | atEntry proper held | free proper held =>
      rcases otherWalks.proper_cases proper with ⟨_, later⟩ | ⟨_, _, _, _, more, _⟩ | ⟨_, _, ended⟩
      · exact later.location_of_nil
      · exact absurd rfl more
      · exact ended

/-- A walk to a link does not lead over that link, if it comes to a place also when the link is gone.
So it comes to what is put in place of the link. -/
theorem Walks.replace_link (unlinks : Unlinks tree other) {location : Location} {target : String}
    (linked : tree.way location = .follow target) (taken : other.way location = .nowhere)
    (walks : Walks tree .itself links here remaining (.present location (.link target)))
    (otherWalks : Walks other .itself links here remaining goal)
    (same : ∀ place, place ≠ location → third.way place = tree.way place) {entry : Entry}
    (held : third.get? location = some entry) (blocked : entry.way = .nowhere) :
    Walks third .followed links here remaining (.present location entry) := by
  generalize mode : LastName.itself = last at walks
  generalize ended : Place.present location (.link target) = place at walks
  have filling {last : LastName} {step : String} {rest : List String} (proper : Proper last step rest) :
      Proper .followed step rest := proper.of_alike (.inr rfl)
  induction walks with
  | stay | free => cases ended
  | pass void _ inductionHypothesis =>
      cases otherWalks with
      | pass _ further => exact .pass void (inductionHypothesis further ended)
      | up => simp at void
      | into proper | follow proper | atLink proper | atEntry proper | free proper =>
          exact absurd void proper.named
  | up _ inductionHypothesis =>
      cases otherWalks with
      | pass void => simp at void
      | up further => exact .up (inductionHypothesis further ended)
      | into proper | follow proper | atLink proper | atEntry proper | free proper =>
          exact absurd rfl proper.forth
  | @into _ around step _ _ proper _ there further inductionHypothesis =>
      have entered := way_of_get? there
      have apart := same (around ++ [step]) fun inside => by
        rw [inside, linked] at entered
        cases entered
      obtain ⟨time, stays⟩ := get?_of_way_onward (apart.trans entered)
      rcases otherWalks.proper_cases proper with ⟨_, later⟩ | ⟨_, _, _, follow, _⟩ | ⟨rfl, _⟩
      · exact .into (filling proper) stays (inductionHypothesis later ended)
      · cases entered.symm.trans (unlinks.follow _ _ follow)
      · subst ended
        cases further
  | @follow _ around step _ _ proper _ there followed _ inductionHypothesis =>
      have leads := way_of_get? there
      rcases otherWalks.proper_cases proper with ⟨onward, _⟩ | ⟨_, _, fewer, follow, more, later⟩ |
        ⟨none, _⟩
      · rcases unlinks.gone _ _ leads with follow | nowhere
        · cases onward.symm.trans follow
        · cases onward.symm.trans nowhere
      · cases fewer
        cases leads.symm.trans (unlinks.follow _ _ follow)
        have apart := same (around ++ [step]) fun inside => by
          rw [inside, taken] at follow
          cases follow
        exact .follow (filling proper) (get?_of_way_follow (apart.trans leads)) (fun both => more both.1)
          (inductionHypothesis later ended)
      · exact absurd ⟨none, mode.symm⟩ followed
  | atLink proper there =>
      cases ended
      exact .atEntry (filling proper) held blocked
  | atEntry _ _ nowhere =>
      cases ended
      cases nowhere

/-- A walk to a link goes the same way where something else stands at a location at which nothing led
on. -/
theorem Walks.to_link {last : LastName} {location closed : Location} {target : String}
    (blocked : tree.way closed = .nowhere)
    (same : ∀ place, place ≠ closed → other.way place = tree.way place)
    (walks : Walks tree last links here remaining (.present location (.link target))) :
    Walks other last links here remaining (.present location (.link target)) := by
  generalize ended : Place.present location (.link target) = place at walks
  have apart {place : Location} (leads : tree.way place ≠ .nowhere) :
      other.way place = tree.way place := same place fun here => leads (here ▸ blocked)
  induction walks with
  | stay | free => cases ended
  | pass void _ inductionHypothesis => exact .pass void (inductionHypothesis ended)
  | up _ inductionHypothesis => exact .up (inductionHypothesis ended)
  | into proper there _ inductionHypothesis =>
      have entered := way_of_get? there
      obtain ⟨time, stays⟩ := get?_of_way_onward
        ((apart (by rw [entered]; exact Way.noConfusion)).trans entered)
      exact .into proper stays (inductionHypothesis ended)
  | follow proper there followed _ inductionHypothesis =>
      have linked := way_of_get? there
      have stays := get?_of_way_follow
        ((apart (by rw [linked]; exact Way.noConfusion)).trans linked)
      exact .follow proper stays followed (inductionHypothesis ended)
  | atLink proper there itself =>
      cases ended
      have linked := way_of_get? there
      exact .atLink proper (get?_of_way_follow
        ((apart (by rw [linked]; exact Way.noConfusion)).trans linked)) itself
  | atEntry _ _ nowhere =>
      cases ended
      cases nowhere

end Walks

end FileTree

namespace Ledger

variable {ledger again : Ledger} {cachePath : Path} {tree middle later after : FileTree}

/-- A file stays in the way while another cache is prepared and written. -/
theorem way_of_written {written : FileTree} {content : ByteArray} {place goal : FileTree.Place}
    (sound : tree.Sound) {location : Location} {held : ByteArray} {time : Int}
    (there : tree.get? location = some (.file held time))
    (wrote : (prepared cachePath tree).2.write (temporaryPath cachePath) content = .ok written)
    (replaces : Replaces (prepared cachePath tree).2 written after cachePath content place goal) :
    written.way location = .nowhere := by
  by_cases same : location = place.location
  · rw [same]
    exact (replaces.writtenSound.resolve_holds replaces.moved).1
  · rcases prepared_spec sound cachePath with ⟨preparedSound, _⟩
    have retains := (retains_prepared sound cachePath location).trans
      (preparedSound.spares_write replaces.filled wrote same).retains
    exact (retains _ there).1

/-- Where a cache is saved twice, and in between nothing changes but bytes and times, the name of the
temporary file is not taken the second time either. -/
theorem untaken_again {written : FileTree} {content : ByteArray} {place goal : FileTree.Place}
    (untaken : tree.Untaken cachePath)
    (replaces : Replaces (prepared cachePath tree).2 written middle cachePath content place goal)
    (sound : later.Sound) (kinds : FileTree.SameKinds middle later) (location : Location)
    (target : String) :
    (prepared cachePath later).2.resolve .itself (temporaryPath cachePath) ≠
      .ok (.present location (.link target)) := by
  intro taken
  rcases prepared_spec untaken.sound cachePath with ⟨_, outward⟩
  rcases prepared_spec sound cachePath with ⟨_, links⟩
  obtain ⟨_, _, standing⟩ := kinds.exists_file replaces.changes.held
  have blocked := (retains_prepared sound cachePath goal.location _ standing).1
  have outer := outward.trans replaces.links
  have workingDirectory := links.workingDirectory.trans
    (kinds.workingDirectory.trans replaces.changes.workingDirectory)
  have elsewhere (place : Location) (apart : place ≠ goal.location) (target : String) :
      (prepared cachePath later).2.way place = .follow target ↔ tree.way place = .follow target := by
    rw [links.follow, kinds.way_eq, replaces.changes.way place apart, outer.follow]
  by_cases linked : ∃ location target, goal = .present location (.link target)
  · -- The walk does not lead over the file, so it is there also with the link that the file replaced.
    rcases linked with ⟨there, former, rfl⟩
    have follow : tree.way there = .follow former :=
      (outer.follow there former).mp (replaces.writtenSound.resolve_holds replaces.found).1
    have inside : there ≠ [] := FileTree.ne_nil_of_way_nowhere blocked
    have restored : FileTree.SameLinks tree
        ((prepared cachePath later).2.put there (.link former)) :=
      { workingDirectory := workingDirectory.trans outer.workingDirectory
        follow := fun place target => by
          rw [FileTree.way_put inside]
          split
          · rename_i here
            rw [here, follow]
            rfl
          · rename_i apart
            exact elsewhere place apart target }
    refine untaken.temporary _ restored location target ?_
    rcases FileTree.resolve_eq_ok_iff.mp taken with ⟨accepted, walks⟩
    exact FileTree.resolve_eq_ok_iff.mpr ⟨accepted, walks.to_link blocked fun place apart =>
      (FileTree.way_put inside place).trans (if_neg apart)⟩
  · have free := replaces.nowhere_of_unlinked fun location target found =>
      linked ⟨location, target, found⟩
    have same : FileTree.SameLinks tree (prepared cachePath later).2 :=
      { workingDirectory := workingDirectory.trans outer.workingDirectory
        follow := fun place target => by
          by_cases here : place = goal.location
          · rw [here, blocked, ← outer.follow, free]
            exact ⟨Way.noConfusion, Way.noConfusion⟩
          · exact elsewhere place here target }
    exact untaken.temporary _ same location target taken

/-- Where a cache is saved twice, and in between nothing changes but bytes and times, what was saved
is found each time. -/
theorem load_of_saved_twice (untaken : tree.Untaken cachePath)
    (saved : ledger.save cachePath tree = (.ok (), middle)) (sound : later.Sound)
    (kinds : FileTree.SameKinds middle later)
    (savedAgain : again.save cachePath later = (.ok (), after)) :
    load middle cachePath = .ok (decode ledger.encode) ∧
      load after cachePath = .ok (decode again.encode) := by
  obtain ⟨written, place, goal, -, -, first⟩ := exists_replaces_of_save untaken saved
  have links := (prepared_spec sound cachePath).2
  obtain ⟨rewritten, otherPlace, otherGoal, wrote, -, second⟩ :=
    exists_replaces_of_plain sound (untaken_again untaken first sound kinds) savedAgain
  have further := links.trans second.links
  -- The first cache is a file, and so it is in the way when the second one is written.
  obtain ⟨_, _, standing⟩ := kinds.exists_file first.changes.held
  have taken := way_of_written sound standing wrote second
  have unlinks : FileTree.Unlinks written rewritten :=
    { workingDirectory := further.workingDirectory.trans
        (kinds.workingDirectory.trans first.changes.workingDirectory)
      follow := fun location target follow => by
        have distinct : location ≠ goal.location := by
          rintro rfl
          cases follow.symm.trans taken
        rw [further.follow, kinds.way_eq, first.changes.way location distinct] at follow
        exact follow
      gone := fun location target follow => by
        by_cases here : location = goal.location
        · exact .inr (here ▸ taken)
        · left
          rwa [further.follow, kinds.way_eq, first.changes.way location here] }
  rcases FileTree.resolve_eq_ok_iff.mp first.found with ⟨accepted, walks⟩
  rcases FileTree.resolve_eq_ok_iff.mp second.found with ⟨_, otherWalks⟩
  rw [FileTree.start, unlinks.workingDirectory, ← FileTree.start] at otherWalks
  have same := walks.location_eq_of_unlinks unlinks otherWalks
  constructor
  · by_cases linked : ∃ location target, goal = .present location (.link target)
    · rcases linked with ⟨location, target, rfl⟩
      have stands := walks.replace_link unlinks (first.writtenSound.resolve_holds first.found).1 taken
        otherWalks first.changes.way first.changes.held rfl
      rw [FileTree.start, ← first.changes.workingDirectory, ← FileTree.start] at stands
      exact load_of_find (FileTree.find_eq_ok_iff.mpr
        (FileTree.resolve_eq_ok_iff.mpr ⟨accepted, stands⟩))
    · exact load_of_find (first.find_eq_of_unlinked fun location target found =>
        linked ⟨location, target, found⟩)
  · refine load_of_find (second.find_eq_of_unlinked fun location target found => ?_)
    subst found
    have follow : rewritten.way location = .follow target :=
      (second.writtenSound.resolve_holds second.found).1
    rw [show location = goal.location from same] at follow
    cases follow.symm.trans taken

end Ledger

end SourceHarvest
