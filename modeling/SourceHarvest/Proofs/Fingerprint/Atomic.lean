import SourceHarvest.Proofs.Fingerprint.Reloading
import SourceHarvest.Proofs.Path.Extension

/-!
# Saving a cache replaces it or leaves it alone

The text of a cache goes to a temporary file beside the cache, and that file takes the place of the
cache in one step.  So whatever goes wrong, there is either the old cache or the new one, and no file is
touched but these two.  The temporary file is another one than the cache, and gone once the cache is
replaced.
-/

namespace SourceHarvest

namespace FileTree

/-- A path itself leads to a location, where something is or a name is free. -/
def LeadsTo (tree : FileTree) (path : Path) (location : Location) : Prop :=
  ∃ place, tree.resolve .itself path = .ok place ∧ place.location = location

theorem placeAt_location (tree : FileTree) (location : Location) :
    (tree.placeAt location).location = location := by
  rw [placeAt]
  split <;> rfl

section Walks

variable {tree other : FileTree} {last : LastName} {links : Nat} {here : Location} {step : String}
  {front rest remaining : List String} {place goal : Place} {location closed : Location}

/-- A walk along a single name comes to that name. -/
theorem Walks.location_of_single (named : ¬ (step = "." ∨ step = "")) (forth : step ≠ "..")
    (walks : Walks tree .itself links here [step] place) : place.location = here ++ [step] := by
  cases walks with
  | pass void => exact absurd void named
  | up => exact absurd rfl forth
  | into _ _ further => exact further.location_of_nil
  | follow _ _ followed => exact absurd ⟨rfl, rfl⟩ followed
  | atLink | atEntry | free => rfl

/-- Walks that differ in their last names come to neighbours. -/
theorem Walks.exists_beside (named : ¬ (step = "." ∨ step = "")) (forth : step ≠ "..")
    (walks : Walks tree .itself links here (front ++ [step]) place) :
    ∃ around, place.location = around ++ [step] ∧ ∀ name, ¬ (name = "." ∨ name = "") → name ≠ ".." →
      ∀ goal, Walks tree .itself links here (front ++ [name]) goal →
        goal.location = around ++ [name] := by
  generalize mode : LastName.itself = last at walks
  generalize whole : front ++ [step] = remaining at walks
  induction walks generalizing front with
  | stay => simp at whole
  | pass void _ inductionHypothesis =>
      cases front with
      | nil =>
          cases whole
          exact absurd void named
      | cons first others =>
          cases whole
          obtain ⟨around, here, beside⟩ := inductionHypothesis rfl
          exact ⟨around, here, fun name proper up goal walks =>
            beside name proper up goal (walks.of_pass void)⟩
  | up _ inductionHypothesis =>
      cases front with
      | nil =>
          cases whole
          exact absurd rfl forth
      | cons first others =>
          cases whole
          obtain ⟨around, here, beside⟩ := inductionHypothesis rfl
          exact ⟨around, here, fun name proper up goal walks => beside name proper up goal walks.of_up⟩
  | @into links here _ _ _ proper _ held further inductionHypothesis =>
      cases front with
      | nil =>
          cases whole
          subst mode
          exact ⟨here, further.location_of_nil, fun name proper up goal walks =>
            walks.location_of_single proper up⟩
      | cons first others =>
          cases whole
          obtain ⟨around, there, beside⟩ := inductionHypothesis rfl
          exact ⟨around, there, fun name named up goal walks => beside name named up goal
            (walks.of_into proper.named proper.forth (way_of_get? held))⟩
  | @follow links here _ _ _ proper target held followed _ inductionHypothesis =>
      cases front with
      | nil =>
          cases whole
          exact absurd ⟨rfl, mode.symm⟩ followed
      | cons first others =>
          cases whole
          obtain ⟨around, there, beside⟩ := inductionHypothesis
            (List.append_assoc (steps ⟨target⟩) others [step])
          refine ⟨around, there, fun name named up goal walks => beside name named up goal ?_⟩
          obtain ⟨_, same, further⟩ :=
            walks.of_follow proper.named proper.forth (by simp) (way_of_get? held)
          cases same
          rwa [List.append_assoc]
  | @atLink links here | @atEntry links here | @free links here =>
      cases front with
      | nil =>
          cases whole
          subst mode
          exact ⟨here, rfl, fun name proper up goal walks => walks.location_of_single proper up⟩
      | cons first others => simp at whole

theorem Walks.proper_last (walks : Walks tree last links here (front ++ [step]) place)
    (nested : tree.Nested) (onward : tree.way here = .onward)
    (blocked : tree.way place.location ≠ .onward) : ¬ (step = "." ∨ step = "") ∧ step ≠ ".." := by
  obtain ⟨name, ends, proper⟩ := walks.exists_last nested onward blocked
  rw [List.getLast?_concat] at ends
  exact Option.some.inj ends ▸ proper

/-- A walk goes the same way in a tree with the same ways. -/
theorem Walks.of_ways (same : ∀ location, other.way location = tree.way location)
    (walks : Walks tree last links here remaining place) :
    ∃ goal, Walks other last links here remaining goal ∧ goal.location = place.location := by
  induction walks with
  | stay links here => exact ⟨_, .stay links here, rfl⟩
  | pass void _ inductionHypothesis =>
      obtain ⟨goal, walks, there⟩ := inductionHypothesis
      exact ⟨goal, .pass void walks, there⟩
  | up _ inductionHypothesis =>
      obtain ⟨goal, walks, there⟩ := inductionHypothesis
      exact ⟨goal, .up walks, there⟩
  | into proper held _ inductionHypothesis =>
      obtain ⟨goal, walks, there⟩ := inductionHypothesis
      obtain ⟨_, stays⟩ := get?_of_way_onward ((same _).trans (way_of_get? held))
      exact ⟨goal, .into proper stays walks, there⟩
  | follow proper held followed _ inductionHypothesis =>
      obtain ⟨goal, walks, there⟩ := inductionHypothesis
      have stays := get?_of_way_follow ((same _).trans (way_of_get? held))
      exact ⟨goal, .follow proper stays followed walks, there⟩
  | atLink proper held itself =>
      have stays := get?_of_way_follow ((same _).trans (way_of_get? held))
      exact ⟨_, .atLink proper stays itself, rfl⟩
  | atEntry proper held blocked =>
      have nowhere := (same _).trans ((way_of_get? held).trans blocked)
      exact ⟨_, .of_placeAt (.inl rfl) proper nowhere, placeAt_location _ _⟩
  | @free _ here step proper held =>
      have nowhere : tree.way (here ++ [step]) = .nowhere := by rw [FileTree.way, held]
      exact ⟨_, .of_placeAt (.inl rfl) proper ((same _).trans nowhere), placeAt_location _ _⟩

/-- Where a file is gone, and a location that was no directory leads on no more, the walk to the file
comes to a free name, if it comes anywhere. -/
theorem Walks.eq_absent {entry : Entry} {goalName : LastName} {others : Nat}
    (walks : Walks tree .itself links here remaining (.present location entry))
    (blocked : entry.way = .nowhere) (calm : tree.way closed ≠ .onward)
    (closes : Closes tree other closed) (gone : other.get? location = none)
    (otherWalks : Walks other goalName others here remaining goal) : goal = .absent location := by
  generalize mode : LastName.itself = last at walks
  generalize ended : Place.present location entry = place at walks
  induction walks generalizing others with
  | stay =>
      cases ended
      cases blocked
  | pass void _ inductionHypothesis => exact inductionHypothesis (otherWalks.of_pass void) ended
  | up _ inductionHypothesis => exact inductionHypothesis otherWalks.of_up ended
  | into proper held _ inductionHypothesis =>
      have entered := way_of_get? held
      have apart := closes.way _ fun same => calm (same ▸ entered)
      exact inductionHypothesis
        (otherWalks.of_into proper.named proper.forth (apart.trans entered)) ended
  | @follow _ here step rest _ proper _ held followed _ inductionHypothesis =>
      have more : rest ≠ [] := fun none => followed ⟨none, mode.symm⟩
      by_cases there : here ++ [step] = closed
      · exact absurd (otherWalks.rest_of_nowhere proper.named proper.forth (there ▸ closes.closed)) more
      · obtain ⟨_, _, further⟩ := otherWalks.of_follow proper.named proper.forth more
          ((closes.way _ there).trans (way_of_get? held))
        exact inductionHypothesis further ended
  | atLink =>
      cases ended
      cases blocked
  | atEntry proper =>
      cases ended
      cases otherWalks with
      | pass void => exact absurd void proper.named
      | up => exact absurd rfl proper.forth
      | into _ held | follow _ held | atLink _ held | atEntry _ held => cases gone.symm.trans held
      | free => rfl
  | free => cases ended

end Walks

end FileTree

namespace Ledger

variable {ledger : Ledger} {cachePath : Path} {tree after : FileTree}

/-- A path that leads to no directory ends in a name, and as the path of a cache it is the same as that
of the temporary file up to this name. -/
theorem exists_steps_temporary {goal : FileTree.Place} (sound : tree.Sound)
    (found : tree.resolve .itself cachePath = .ok goal) (calm : tree.way goal.location ≠ .onward) :
    (temporaryPath cachePath).isAbsolute = cachePath.isAbsolute ∧
    ∃ front name other, FileTree.steps cachePath = front ++ [name] ∧
      FileTree.steps (temporaryPath cachePath) = front ++ [other] ∧ other ≠ name := by
  obtain ⟨name, last, named, forth⟩ := (FileTree.resolve_eq_ok_iff.mp found).2.exists_last
    sound.nested (sound.way_start _) calm
  obtain ⟨before, parted⟩ := FileTree.exists_parts_of_steps last fun blank => named (.inr blank)
  have proper : Path.isVoid name.toList = false := by
    apply Path.isVoid_toList
    constructor
    · exact FileTree.not_mem_of_mem_steps (List.mem_of_getLast? last)
    · exact ⟨fun blank => named (.inr blank), fun dot => named (.inl dot)⟩
  obtain ⟨absolute, other, less, otherParted, _, ended, otherProper, distinct⟩ :=
    Path.withExtension_spec parted proper (by simp) (fun dots => forth (String.toList_inj.mp dots))
      (by decide : '.' ∈ "json.tmp".toList) (by decide)
  rw [ended rfl] at otherParted
  have filled {part : List Char} (proper : Path.isVoid part = false) : part ≠ [] := by
    rintro rfl
    cases proper
  have steps := FileTree.steps_of_parts parted (filled proper)
  rw [String.ofList_toList] at steps
  refine ⟨absolute, _, name, _, steps, FileTree.steps_of_parts otherParted (filled otherProper), ?_⟩
  rintro rfl
  exact distinct String.toList_ofList.symm

section Replaces

variable {written : FileTree} {content : ByteArray} {place goal : FileTree.Place}
  (replaces : Replaces tree written after cachePath content place goal)

include replaces

/-- The temporary file lies beside the cache. -/
theorem Replaces.location_ne : goal.location ≠ place.location := by
  have sound := replaces.writtenSound
  obtain ⟨absolute, front, name, other, steps, otherSteps, distinct⟩ :=
    exists_steps_temporary sound replaces.found replaces.calm
  have moved := (FileTree.resolve_eq_ok_iff.mp replaces.moved).2
  have found := (FileTree.resolve_eq_ok_iff.mp replaces.found).2
  have blocked := (sound.resolve_holds replaces.moved).1
  rw [FileTree.start, absolute, ← FileTree.start, otherSteps] at moved
  rw [steps] at found
  obtain ⟨named, forth⟩ := found.proper_last sound.nested (sound.way_start _) replaces.calm
  obtain ⟨otherNamed, otherForth⟩ := moved.proper_last sound.nested (sound.way_start _)
    (Way.ne_onward_of_nowhere blocked)
  obtain ⟨around, origin, beside⟩ := moved.exists_beside otherNamed otherForth
  have there := beside name named forth goal found
  have here : place.location = around ++ [other] := origin
  rw [there, here]
  intro same
  exact distinct (List.singleton_inj.mp (List.append_cancel_left same)).symm

variable (renamed : written.rename (temporaryPath cachePath) cachePath = .ok after)

include renamed

/-- Once the cache is replaced, the path of the temporary file leads to a free name, if it leads
anywhere. -/
theorem Replaces.eq_absent_temporary {last : FileTree.LastName} {there : FileTree.Place}
    (resolved : after.resolve last (temporaryPath cachePath) = .ok there) :
    there = .absent place.location := by
  have gone : after.get? place.location = none :=
    replaces.writtenSound.get?_origin_of_rename replaces.moved rfl replaces.found renamed
      replaces.location_ne
  have closes : FileTree.Closes written after goal.location :=
    { workingDirectory := replaces.changes.workingDirectory
      way := replaces.changes.way
      closed := FileTree.way_of_get? replaces.changes.held }
  have moved := (FileTree.resolve_eq_ok_iff.mp replaces.moved).2
  have walks := (FileTree.resolve_eq_ok_iff.mp resolved).2
  rw [FileTree.start, replaces.changes.workingDirectory, ← FileTree.start] at walks
  exact moved.eq_absent rfl replaces.calm closes gone walks

/-- Once the cache is replaced, the temporary file is gone. -/
theorem Replaces.not_exists_temporary : after.exists (temporaryPath cachePath) = false := by
  rw [FileTree.exists]
  cases found : after.find (temporaryPath cachePath) with
  | error failure => rfl
  | ok result => cases replaces.eq_absent_temporary renamed (FileTree.find_eq_ok_iff.mp found)

end Replaces

/-! ## Saving -/

/-- A ledger has replaced a cache: its whole text stands in the place of the cache, and nothing else is
changed.  It is found under the path of the cache, unless this is the path of a link that leads over this
same link. -/
structure Replaced (ledger : Ledger) (cachePath : Path) (tree after : FileTree) : Prop where
  stands : ∃ location time, (prepared cachePath tree).2.LeadsTo cachePath location ∧
    after.get? location = some (.file ledger.encode.toUTF8 time)
  reads : ¬ (prepared cachePath tree).2.LeadsOverItself cachePath →
    after.read cachePath = .ok ledger.encode.toUTF8
  gone : after.exists (temporaryPath cachePath) = false
  spares : ∀ location, ¬ (prepared cachePath tree).2.LeadsTo cachePath location →
    ¬ (prepared cachePath tree).2.LeadsTo (temporaryPath cachePath) location →
      tree.Spares after location

/-- A cache is left alone: the path of the cache leads to the same file, or to none as before, and
nothing but the temporary file is changed. -/
structure LeftAlone (cachePath : Path) (tree after : FileTree) : Prop where
  kept : ∀ (location : Location) (content : ByteArray) (time : Int),
    tree.find cachePath = .ok (location, .file content time) →
      after.find cachePath = .ok (location, .file content time)
  known : ∀ (location : Location) (content : ByteArray) (time : Int),
    after.find cachePath = .ok (location, .file content time) →
      tree.get? location = some (.file content time)
  spares : ∀ location, ¬ (prepared cachePath tree).2.LeadsTo (temporaryPath cachePath) location →
    tree.Spares after location

section Saving

variable (sound : tree.Sound) (undiverted : tree.Undiverted cachePath)

include sound

/-- Making the directories around a cache touches nothing that is there. -/
theorem spares_prepared (cachePath : Path) (location : Location) :
    tree.Spares (prepared cachePath tree).2 location where
  retains := retains_prepared sound cachePath location
  known := addsDirectories_prepared sound cachePath location

include undiverted

theorem replaced_of_save (saved : ledger.save cachePath tree = (.ok (), after)) :
    Replaced ledger cachePath tree after := by
  have ready := (prepared_spec sound cachePath).1
  obtain ⟨written, place, goal, wrote, renamed, replaces⟩ :=
    exists_replaces_of_plain sound undiverted saved
  have ways := ready.way_write (isEmpty_encode ledger) wrote
  have target : (prepared cachePath tree).2.LeadsTo cachePath goal.location := by
    obtain ⟨accepted, walks⟩ := FileTree.resolve_eq_ok_iff.mp replaces.found
    obtain ⟨final, led, there⟩ := walks.of_ways fun location => (ways location).symm
    rw [FileTree.start, replaces.links.workingDirectory, ← FileTree.start] at led
    exact ⟨final, FileTree.resolve_eq_ok_iff.mpr ⟨accepted, led⟩, there⟩
  constructor
  · exact ⟨goal.location, _, target, replaces.changes.held⟩
  · intro clear
    rw [FileTree.read, (replaces.find_cases ready ways).1 clear]
    rfl
  · exact replaces.not_exists_temporary renamed
  · intro location notCache notTemporary
    have apart : location ≠ place.location := fun same =>
      notTemporary ⟨place, replaces.itself, same.symm⟩
    have distinct : location ≠ goal.location := fun same => notCache (same ▸ target)
    exact ((spares_prepared sound cachePath location).trans
      (ready.spares_write replaces.filled wrote apart)).trans
        (replaces.writtenSound.spares_rename replaces.moved rfl replaces.found renamed apart distinct)

theorem leftAlone_of_save {failure : Failure}
    (failed : ledger.save cachePath tree = (.error failure, after)) :
    LeftAlone cachePath tree after := by
  have ready := (prepared_spec sound cachePath).1
  constructor
  · exact fun location content time found => find_of_unsaved sound found failed
  · exact fun location content time found => get?_of_unsaved sound failed found
  · intro location notTemporary
    have made := spares_prepared sound cachePath location
    rcases save_eq_error failed with rfl | ⟨written, error, wrote, _, rfl⟩
    · exact made
    · obtain ⟨place, filled, _, _, _⟩ := ready.write_spec (isEmpty_encode ledger) wrote
      have itself := FileTree.resolve_itself_of_filled undiverted filled
      exact made.trans (ready.spares_write filled wrote fun same =>
        notTemporary ⟨place, itself, same.symm⟩)

end Saving

end Ledger

namespace Small

/-- The path of a cache that leads through a directory which is not there yet. -/
def detour : Path :=
  ⟨"/r/a/../b/cache.json"⟩

/-- A file, and a link to it with the name of the temporary file of a cache. -/
def diverted : FileTree where
  entries :=
    [ (["r"], .directory 5000),
      (["r", "b"], .directory 5000),
      (["r", "b", "cache.json.tmp"], .link "/r/v"),
      (["r", "v"], .file "bytes".toUTF8 5000) ]
  workingDirectory := []
  clock := 5000

end Small

end SourceHarvest
