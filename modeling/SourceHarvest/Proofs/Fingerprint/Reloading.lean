import SourceHarvest.Proofs.Fingerprint.Resaving
import SourceHarvest.Proofs.Fingerprint.Unsaved
import SourceHarvest.Proofs.Ingestion.TableServices

/-!
# Loading what was saved

What was saved is loaded again, in whatever order it was written and whatever was at the path of the
cache before.  There is one exception.  The path can be that of a link, and lead over this same link
on the way.  The new cache takes the place of the link, and then no path leads on there.
-/

namespace SourceHarvest

namespace FileTree

/-- What a walk comes to at a location that does not lead on. -/
def placeAt (tree : FileTree) (location : Location) : Place :=
  match tree.get? location with
  | some entry => .present location entry
  | none => .absent location

theorem placeAt_of_get? {tree : FileTree} {location : Location} {entry : Entry}
    (held : tree.get? location = some entry) : tree.placeAt location = .present location entry := by
  rw [placeAt, held]

/-- The other tree has the same ways but at a location, where nothing leads on. -/
structure Closes (tree other : FileTree) (location : Location) : Prop where
  workingDirectory : other.workingDirectory = tree.workingDirectory
  way : ∀ place, place ≠ location → other.way place = tree.way place
  closed : other.way location = .nowhere

theorem Sound.closes_erase {tree : FileTree} (sound : tree.Sound) {location : Location}
    (calm : tree.way location ≠ .onward) : Closes tree (tree.erase location) location where
  workingDirectory := rfl
  way place apart := way_eq_of_get? (by rw [get?_erase_of_calm sound calm, if_neg apart])
  closed := by rw [FileTree.way, get?_erase_of_calm sound calm, if_pos rfl]

section Walks

variable {tree other : FileTree} {last goal : LastName} {links : Nat} {here : Location}
  {step : String} {rest remaining : List String} {place : Place} {location : Location}

theorem Walks.of_pass (void : step = "." ∨ step = "")
    (walks : Walks tree last links here (step :: rest) place) :
    Walks tree last links here rest place := by
  cases walks with
  | pass _ further => exact further
  | up => simp at void
  | into proper | follow proper | atLink proper | atEntry proper | free proper =>
      exact absurd void proper.named

theorem Walks.of_up (walks : Walks tree last links here (".." :: rest) place) :
    Walks tree last links here.dropLast rest place := by
  cases walks with
  | pass void => simp at void
  | up further => exact further
  | into proper | follow proper | atLink proper | atEntry proper | free proper =>
      exact absurd rfl proper.forth

/-- A walk goes into a directory. -/
theorem Walks.of_into (named : ¬ (step = "." ∨ step = "")) (forth : step ≠ "..")
    (onward : tree.way (here ++ [step]) = .onward)
    (walks : Walks tree last links here (step :: rest) place) :
    Walks tree last links (here ++ [step]) rest place := by
  cases walks with
  | pass void => exact absurd void named
  | up => exact absurd rfl forth
  | into _ _ further => exact further
  | follow _ held | atLink _ held => cases (way_of_get? held).symm.trans onward
  | atEntry _ held blocked => cases blocked.symm.trans ((way_of_get? held).symm.trans onward)
  | free _ held =>
      rw [way, held] at onward
      cases onward

/-- A walk that is not at its end follows a link. -/
theorem Walks.of_follow (named : ¬ (step = "." ∨ step = "")) (forth : step ≠ "..")
    (more : rest ≠ []) {target : String} (follow : tree.way (here ++ [step]) = .follow target)
    (walks : Walks tree last links here (step :: rest) place) :
    ∃ fewer, links = fewer + 1 ∧ Walks tree last fewer
      (if Path.isAbsolute ⟨target⟩ then [] else here) (steps ⟨target⟩ ++ rest) place := by
  cases walks with
  | pass void => exact absurd void named
  | up => exact absurd rfl forth
  | into _ held => cases (way_of_get? held).symm.trans follow
  | follow _ held _ further =>
      cases (way_of_get? held).symm.trans follow
      exact ⟨_, rfl, further⟩
  | atLink | atEntry | free => exact absurd rfl more

/-- A walk ends at a name where nothing leads on. -/
theorem Walks.rest_of_nowhere (named : ¬ (step = "." ∨ step = "")) (forth : step ≠ "..")
    (closed : tree.way (here ++ [step]) = .nowhere)
    (walks : Walks tree last links here (step :: rest) place) : rest = [] := by
  cases walks with
  | pass void => exact absurd void named
  | up => exact absurd rfl forth
  | into _ held | follow _ held => cases (way_of_get? held).symm.trans closed
  | atLink | atEntry | free => rfl

/-- A name that is free or taken by a file can be the end of a walk. -/
theorem Walks.of_placeAt (alike : goal = last ∨ goal = .followed)
    (proper : Proper last step []) (closed : tree.way (here ++ [step]) = .nowhere) :
    Walks tree goal links here [step] (tree.placeAt (here ++ [step])) := by
  have ending : Proper goal step [] := proper.of_alike alike
  cases held : tree.get? (here ++ [step]) with
  | none =>
      rw [placeAt, held]
      exact .free ending held
  | some entry =>
      rw [placeAt_of_get? held]
      exact .atEntry ending held ((way_of_get? held).symm.trans closed)

/-- A walk to what leads nowhere cannot go on from there. -/
theorem Walks.not_beyond {there : Location} {entry : Entry} (blocked : entry.way = .nowhere)
    (walks : Walks tree .followed links here remaining (.present there entry)) (more : rest ≠ [])
    (others : Nat) (goal : LastName) (place : Place) :
    ¬ Walks tree goal others here (remaining ++ rest) place := by
  generalize mode : LastName.followed = last at walks
  generalize ended : Place.present there entry = final at walks
  intro beyond
  induction walks generalizing others with
  | stay =>
      cases ended
      cases blocked
  | pass void _ inductionHypothesis => exact inductionHypothesis _ ended (beyond.of_pass void)
  | up _ inductionHypothesis => exact inductionHypothesis _ ended beyond.of_up
  | into proper held _ inductionHypothesis =>
      exact inductionHypothesis _ ended
        (beyond.of_into proper.named proper.forth (way_of_get? held))
  | follow proper held _ _ inductionHypothesis =>
      obtain ⟨fewer, rfl, further⟩ :=
        beyond.of_follow proper.named proper.forth (by simp [more]) (way_of_get? held)
      refine inductionHypothesis fewer ended ?_
      rw [List.append_assoc]
      exact further
  | atLink _ _ itself => exact LastName.noConfusion (mode.trans itself)
  | atEntry proper held blocked =>
      have closed := (way_of_get? held).trans blocked
      exact more (beyond.rest_of_nowhere proper.named proper.forth closed)
  | free => cases ended

/-- Where a path leads over the link that it comes to, the way goes on behind that link. -/
theorem Walks.behind_link {target : String} {final : Place} {others : Nat}
    (walks : Walks tree .itself links here remaining (.present location (.link target)))
    (found : Walks tree .followed others here remaining final) :
    ∃ fewer, Walks tree .followed fewer
      (if Path.isAbsolute ⟨target⟩ then [] else location.dropLast) (steps ⟨target⟩) final := by
  generalize mode : LastName.itself = last at walks
  generalize ended : Place.present location (.link target) = place at walks
  induction walks generalizing others with
  | stay | free => cases ended
  | pass void _ inductionHypothesis => exact inductionHypothesis (found.of_pass void) ended
  | up _ inductionHypothesis => exact inductionHypothesis found.of_up ended
  | into proper held _ inductionHypothesis =>
      exact inductionHypothesis (found.of_into proper.named proper.forth (way_of_get? held)) ended
  | follow proper held followed _ inductionHypothesis =>
      have more := fun none => followed ⟨none, mode.symm⟩
      obtain ⟨_, rfl, further⟩ :=
        found.of_follow proper.named proper.forth more (way_of_get? held)
      exact inductionHypothesis further ended
  | atLink proper held =>
      cases ended
      rw [List.dropLast_concat]
      cases found with
      | pass void => exact absurd void proper.named
      | up => exact absurd rfl proper.forth
      | into _ there => cases held.symm.trans there
      | follow _ there _ further =>
          cases held.symm.trans there
          rw [List.append_nil] at further
          exact ⟨_, further⟩
      | atLink _ _ itself => cases itself
      | atEntry _ there blocked =>
          cases held.symm.trans there
          cases blocked
      | free _ there => cases held.symm.trans there
  | atEntry _ _ nowhere =>
      cases ended
      cases nowhere

/-- Where a location leads on no more, a walk comes to what stands there. -/
def Arrives (tree : FileTree) (location : Location) (links : Nat) (here : Location)
    (remaining : List String) : Prop :=
  ∀ other, Closes tree other location → ∀ goal, goal = .itself ∨ goal = .followed →
    Walks other goal links here remaining (other.placeAt location)

/-- Where a location leads on no more, a walk comes nowhere, and before that it came to no file. -/
structure Breaks (tree : FileTree) (location : Location) (links : Nat) (here : Location)
    (remaining : List String) : Prop where
  broken : ∀ other, Closes tree other location → ∀ goal place,
    ¬ Walks other goal links here remaining place
  lost : ∀ others there entry, entry.way = .nowhere →
    ¬ Walks tree .followed others here remaining (.present there entry)

theorem Closes.way_onward {target : String} (closes : Closes tree other location)
    (linked : tree.way location = .follow target) {place : Location}
    (entered : tree.way place = .onward) : other.way place = .onward :=
  (closes.way place fun same => by cases (same ▸ entered).symm.trans linked).trans entered

theorem Arrives.pass (void : step = "." ∨ step = "")
    (arrives : Arrives tree location links here rest) :
    Arrives tree location links here (step :: rest) :=
  fun other closes goal alike => .pass void (arrives other closes goal alike)

theorem Breaks.pass (void : step = "." ∨ step = "") (breaks : Breaks tree location links here rest) :
    Breaks tree location links here (step :: rest) where
  broken other closes goal place walks := breaks.broken other closes goal place (walks.of_pass void)
  lost others there entry blocked found :=
    breaks.lost others there entry blocked (found.of_pass void)

theorem Arrives.up (arrives : Arrives tree location links here.dropLast rest) :
    Arrives tree location links here (".." :: rest) :=
  fun other closes goal alike => .up (arrives other closes goal alike)

theorem Breaks.up (breaks : Breaks tree location links here.dropLast rest) :
    Breaks tree location links here (".." :: rest) where
  broken other closes goal place walks := breaks.broken other closes goal place walks.of_up
  lost others there entry blocked found := breaks.lost others there entry blocked found.of_up

section Entering

variable {target : String} (linked : tree.way location = .follow target)
  (proper : Proper .itself step rest) (entered : tree.way (here ++ [step]) = .onward)

include linked proper entered

theorem Arrives.into (arrives : Arrives tree location links (here ++ [step]) rest) :
    Arrives tree location links here (step :: rest) := by
  intro other closes goal alike
  obtain ⟨_, held⟩ := get?_of_way_onward (closes.way_onward linked entered)
  exact .into (proper.of_alike alike) held (arrives other closes goal alike)

theorem Breaks.into (breaks : Breaks tree location links (here ++ [step]) rest) :
    Breaks tree location links here (step :: rest) where
  broken other closes goal place walks := breaks.broken other closes goal place
    (walks.of_into proper.named proper.forth (closes.way_onward linked entered))
  lost others there entry blocked found := breaks.lost others there entry blocked
    (found.of_into proper.named proper.forth entered)

end Entering

section Following

variable {target : String} (proper : Proper .itself step rest) (more : rest ≠ [])
  (leads : tree.way (here ++ [step]) = .follow target)

include proper more leads

theorem Arrives.follow (apart : here ++ [step] ≠ location)
    (arrives : Arrives tree location links (if Path.isAbsolute ⟨target⟩ then [] else here)
      (steps ⟨target⟩ ++ rest)) :
    Arrives tree location (links + 1) here (step :: rest) := fun other closes goal alike =>
  .follow (proper.of_alike alike) (get?_of_way_follow ((closes.way _ apart).trans leads))
    (fun both => more both.1) (arrives other closes goal alike)

theorem Breaks.follow (apart : here ++ [step] ≠ location)
    (breaks : Breaks tree location links (if Path.isAbsolute ⟨target⟩ then [] else here)
      (steps ⟨target⟩ ++ rest)) :
    Breaks tree location (links + 1) here (step :: rest) where
  broken other closes goal place walks := by
    obtain ⟨_, same, further⟩ := walks.of_follow proper.named proper.forth more
      ((closes.way _ apart).trans leads)
    cases same
    exact breaks.broken other closes goal place further
  lost others there entry blocked found := by
    obtain ⟨_, rfl, further⟩ := found.of_follow proper.named proper.forth more leads
    exact breaks.lost _ there entry blocked further

/-- A walk over a link that comes to this link itself breaks off there. -/
theorem Breaks.of_link
    (walks : Walks tree .itself links (if Path.isAbsolute ⟨target⟩ then [] else here)
      (steps ⟨target⟩ ++ rest) (.present (here ++ [step]) (.link target))) :
    Breaks tree (here ++ [step]) (links + 1) here (step :: rest) where
  broken other closes goal place found :=
    more (found.rest_of_nowhere proper.named proper.forth closes.closed)
  lost others there entry blocked found := by
    -- The walk comes to the link again, and then to the file, which it cannot do before.
    obtain ⟨_, rfl, beyond⟩ := found.of_follow proper.named proper.forth more leads
    obtain ⟨_, behind⟩ := walks.behind_link beyond
    rw [List.dropLast_concat] at behind
    exact behind.not_beyond blocked more _ _ _ beyond

end Following

/-- A walk to a link comes to whatever else stands in place of the link, or it leads over the link.
Then it comes nowhere once the link is gone, and to no file where the link is still there. -/
theorem Walks.arrives_or_breaks {target : String} (linked : tree.way location = .follow target)
    (walks : Walks tree .itself links here remaining (.present location (.link target))) :
    Arrives tree location links here remaining ∨ Breaks tree location links here remaining := by
  generalize mode : LastName.itself = last at walks
  generalize ended : Place.present location (.link target) = place at walks
  induction walks with
  | stay | free => cases ended
  | pass void _ inductionHypothesis =>
      exact (inductionHypothesis ended).imp (Arrives.pass void) (Breaks.pass void)
  | up _ inductionHypothesis => exact (inductionHypothesis ended).imp Arrives.up Breaks.up
  | into proper held _ inductionHypothesis =>
      subst mode
      have entered := way_of_get? held
      exact (inductionHypothesis ended).imp (Arrives.into linked proper entered)
        (Breaks.into linked proper entered)
  | @follow _ around step _ _ proper _ held followed further inductionHypothesis =>
      subst mode
      have more := fun none => followed ⟨none, rfl⟩
      have leads := way_of_get? held
      by_cases here : around ++ [step] = location
      · subst here
        cases leads.symm.trans linked
        subst ended
        exact .inr (Breaks.of_link proper more linked further)
      · exact (inductionHypothesis ended).imp (Arrives.follow proper more leads here)
          (Breaks.follow proper more leads here)
  | atLink proper held =>
      cases ended
      subst mode
      exact .inl fun other closes goal alike => .of_placeAt alike proper closes.closed
  | atEntry _ _ nowhere =>
      cases ended
      cases nowhere

end Walks

/-- The path is that of a link, and leads over this same link: with the link gone, it does not lead to
the place of the link. -/
def LeadsOverItself (tree : FileTree) (path : Path) : Prop :=
  match tree.resolve .itself path with
  | .ok (.present location (.link _)) =>
      (tree.erase location).resolve .itself path ≠ .ok (.absent location)
  | _ => False

instance (tree : FileTree) (path : Path) : Decidable (tree.LeadsOverItself path) := by
  unfold LeadsOverItself
  split <;> infer_instance

section Resolving

variable {tree other : FileTree} {path : Path} {location : Location} {target : String}

/-- A path to a link leads to whatever else stands in place of the link, or it leads over itself.  Then
it leads nowhere once the link is gone, and to no file where the link is still there. -/
theorem Sound.arrives_or_breaks (sound : tree.Sound)
    (resolved : tree.resolve .itself path = .ok (.present location (.link target))) :
    (¬ tree.LeadsOverItself path ∧ ∀ other, Closes tree other location →
      other.resolve .followed path = .ok (other.placeAt location)) ∨
    (tree.LeadsOverItself path ∧
      (∀ other, Closes tree other location → ∀ place, other.resolve .followed path ≠ .ok place) ∧
      ∀ there entry, tree.find path = .ok (there, entry) → entry.way ≠ .nowhere) := by
  obtain ⟨accepted, walks⟩ := resolve_eq_ok_iff.mp resolved
  have linked : tree.way location = .follow target := (sound.resolve_holds resolved).1
  have calm : tree.way location ≠ .onward := by
    rw [linked]
    exact Way.noConfusion
  have circular : tree.LeadsOverItself path ↔
      (tree.erase location).resolve .itself path ≠ .ok (.absent location) := by
    rw [LeadsOverItself, resolved]
  have starts {other : FileTree} (closes : Closes tree other location) :
      other.start path = tree.start path := by
    rw [start, start, closes.workingDirectory]
  have gone := sound.closes_erase calm
  have free : (tree.erase location).placeAt location = .absent location := by
    rw [placeAt, get?_erase_of_calm sound calm, if_pos rfl]
  rw [circular]
  rcases walks.arrives_or_breaks linked with arrives | ⟨breaks, lost⟩
  · left
    constructor
    · have still := arrives _ gone .itself (.inl rfl)
      rw [← starts gone, free] at still
      exact not_not.mpr (resolve_eq_ok_iff.mpr ⟨accepted, still⟩)
    · intro other closes
      have there := arrives _ closes .followed (.inr rfl)
      rw [← starts closes] at there
      exact resolve_eq_ok_iff.mpr ⟨accepted, there⟩
  · right
    have broken {other : FileTree} (closes : Closes tree other location) (last : LastName)
        (place : Place) : other.resolve last path ≠ .ok place := fun led =>
      breaks other closes last place (starts closes ▸ (resolve_eq_ok_iff.mp led).2)
    refine ⟨broken gone _ _, fun other closes => broken closes _, ?_⟩
    exact fun there entry found blocked => lost _ there entry blocked
      (resolve_eq_ok_iff.mp (find_eq_ok_iff.mp found)).2

/-- A path under which a file is found does not lead over itself. -/
theorem Sound.not_leadsOverItself (sound : tree.Sound) {there : Location} {entry : Entry}
    (found : tree.find path = .ok (there, entry)) (blocked : entry.way = .nowhere) :
    ¬ tree.LeadsOverItself path := by
  intro circular
  have linked := circular
  rw [LeadsOverItself] at linked
  split at linked
  · rename_i location target resolved
    rcases sound.arrives_or_breaks resolved with ⟨clear, _⟩ | ⟨_, _, lost⟩
    · exact clear circular
    · exact lost there entry found blocked
  · exact linked

/-- A path to a link leads there also where something else stands at a location at which nothing led
on, and nothing does. -/
theorem resolve_link_of_closes {closed : Location} (closes : Closes tree other closed)
    (blocked : tree.way closed = .nowhere)
    (resolved : tree.resolve .itself path = .ok (.present location (.link target))) :
    other.resolve .itself path = .ok (.present location (.link target)) := by
  obtain ⟨accepted, walks⟩ := resolve_eq_ok_iff.mp resolved
  have same : other.start path = tree.start path := by
    rw [start, start, closes.workingDirectory]
  exact resolve_eq_ok_iff.mpr ⟨accepted, same ▸ walks.to_link blocked closes.way⟩

/-- Writing leaves all ways as they are: nothing led on at the file before, and nothing does now. -/
theorem Sound.way_write (sound : tree.Sound) {content : ByteArray}
    (nonempty : content.isEmpty = false) (written : tree.write path content = .ok other)
    (location : Location) : other.way location = tree.way location := by
  obtain ⟨place, _, nowhere, _, changes⟩ := sound.write_spec nonempty written
  by_cases here : location = place.location
  · rw [here, nowhere, way_of_get? changes.held]
    rfl
  · exact changes.way location here

end Resolving

end FileTree

/-- The text of a cache is not diverted when it is saved: once the directories around the cache are
made, the name of its temporary file is not taken by a link. -/
def FileTree.Undiverted (tree : FileTree) (cachePath : Path) : Prop :=
  ∀ location target, (Ledger.prepared cachePath tree).2.resolve .itself
    (Ledger.temporaryPath cachePath) ≠ .ok (.present location (.link target))

theorem FileTree.undiverted_of_absent {tree : FileTree} {cachePath : Path} {location : Location}
    (free : (Ledger.prepared cachePath tree).2.resolve .itself (Ledger.temporaryPath cachePath) =
      .ok (.absent location)) : tree.Undiverted cachePath := by
  intro other target taken
  cases free.symm.trans taken

namespace Ledger

variable {ledger : Ledger} {cachePath : Path} {tree after : FileTree}

/-- A text in place of the cache is found there, unless the path of the cache is that of a link and
leads over it: then nothing is found there any more. -/
theorem Replaces.find_cases {written : FileTree} {content : ByteArray} {place goal : FileTree.Place}
    (sound : tree.Sound) (ways : ∀ location, written.way location = tree.way location)
    (replaces : Replaces tree written after cachePath content place goal) :
    (¬ tree.LeadsOverItself cachePath →
      after.find cachePath = .ok (goal.location, .file content tree.clock)) ∧
    (tree.LeadsOverItself cachePath → ∃ failure, after.find cachePath = .error failure) := by
  by_cases linked : ∃ location target, goal = .present location (.link target)
  · rcases linked with ⟨location, target, rfl⟩
    have resolved : tree.resolve .itself cachePath = .ok (.present location (.link target)) :=
      FileTree.resolve_link_of_closes
        ⟨replaces.links.workingDirectory.symm, fun place _ => (ways place).symm, replaces.nowhere⟩
        ((ways _).trans replaces.nowhere) replaces.found
    have closes : FileTree.Closes tree after location :=
      { workingDirectory := replaces.changes.workingDirectory.trans replaces.links.workingDirectory
        way := fun place apart => (replaces.changes.way place apart).trans (ways place)
        closed := FileTree.way_of_get? replaces.changes.held }
    rcases sound.arrives_or_breaks resolved with ⟨clear, arrives⟩ | ⟨circular, breaks, _⟩
    · have held : after.get? location = _ := replaces.changes.held
      have found := arrives after closes
      rw [FileTree.placeAt_of_get? held] at found
      exact ⟨fun _ => FileTree.find_eq_ok_iff.mpr found, fun circular => absurd circular clear⟩
    · refine ⟨fun clear => absurd circular clear, fun _ => ?_⟩
      cases found : after.find cachePath with
      | error failure => exact ⟨failure, rfl⟩
      | ok result => exact absurd (FileTree.find_eq_ok_iff.mp found) (breaks after closes _)
  · -- Neither is there a link before the temporary file is written.
    have unlinked (location : Location) (target : String) :
        goal ≠ .present location (.link target) := fun same => linked ⟨location, target, same⟩
    refine ⟨fun _ => replaces.find_eq_of_unlinked unlinked, fun circular => ?_⟩
    rw [FileTree.LeadsOverItself] at circular
    split at circular
    · rename_i location target resolved
      have there := FileTree.resolve_link_of_closes
        ⟨replaces.links.workingDirectory, fun place _ => ways place,
          (ways _).trans replaces.nowhere⟩ replaces.nowhere resolved
      exact absurd (Except.ok.inj (replaces.found.symm.trans there)) (unlinked _ _)
    · cases circular

/-- A ledger in place of the cache is what is loaded next, unless the path of the cache is that of a
link and leads over it: then nothing is found there any more. -/
theorem load_after_save (sound : tree.Sound) (undiverted : tree.Undiverted cachePath)
    (saved : ledger.save cachePath tree = (.ok (), after)) :
    after.Sound ∧
      (¬ (prepared cachePath tree).2.LeadsOverItself cachePath →
        load after cachePath = .ok (decode ledger.encode)) ∧
      ((prepared cachePath tree).2.LeadsOverItself cachePath →
        load after cachePath = .ok empty) := by
  have readySound := (prepared_spec sound cachePath).1
  obtain ⟨written, place, goal, wrote, -, replaces⟩ := exists_replaces_of_plain sound undiverted saved
  obtain ⟨found, lost⟩ := replaces.find_cases readySound
    (readySound.way_write (isEmpty_encode ledger) wrote)
  refine ⟨replaces.sound, fun clear => load_of_find (found clear), fun circular => ?_⟩
  obtain ⟨failure, absent⟩ := lost circular
  exact load_of_absent absent

/-- What was saved is loaded again, or nothing is. -/
theorem load_cases_of_save (sound : tree.Sound) (ordered : ledger.Ordered)
    (undiverted : tree.Undiverted cachePath) (saved : ledger.save cachePath tree = (.ok (), after)) :
    load after cachePath = .ok ledger ∨ load after cachePath = .ok empty := by
  obtain ⟨_, loaded, lost⟩ := load_after_save sound undiverted saved
  by_cases circular : (prepared cachePath tree).2.LeadsOverItself cachePath
  · exact .inr (lost circular)
  · by_cases fits : ledger.Fits
    · exact .inl (decode_encode ordered fits ▸ loaded circular)
    · exact .inr (decode_encode_of_unfit fits ▸ loaded circular)

/-- Where a cache was found, what is saved then is found. -/
theorem find_of_save_found {location : Location} {content : ByteArray} {time : Int} (sound : tree.Sound)
    (found : tree.find cachePath = .ok (location, .file content time))
    (undiverted : tree.Undiverted cachePath) (saved : ledger.save cachePath tree = (.ok (), after)) :
    ∃ place now, after.find cachePath = .ok (place, .file ledger.encode.toUTF8 now) := by
  have ready := (prepared_spec sound cachePath).1
  obtain ⟨written, place, goal, wrote, -, replaces⟩ := exists_replaces_of_plain sound undiverted saved
  obtain ⟨again, _⟩ := replaces.find_cases ready (ready.way_write (isEmpty_encode ledger) wrote)
  exact ⟨_, _, again (ready.not_leadsOverItself (find_prepared sound cachePath found) rfl)⟩

/-- Where a cache was found, what is saved then is loaded again. -/
theorem load_of_save_found {location : Location} {content : ByteArray} {time : Int} (sound : tree.Sound)
    (found : tree.find cachePath = .ok (location, .file content time)) (ordered : ledger.Ordered)
    (fits : ledger.Fits) (undiverted : tree.Undiverted cachePath)
    (saved : ledger.save cachePath tree = (.ok (), after)) : load after cachePath = .ok ledger := by
  obtain ⟨_, _, again⟩ := find_of_save_found sound found undiverted saved
  rw [load_of_find again, decode_encode ordered fits]

/-- A ledger with fingerprints was loaded from a file. -/
theorem exists_file_of_filled (loaded : load tree cachePath = .ok ledger) (filled : ledger ≠ empty) :
    ∃ location content time, tree.find cachePath = .ok (location, .file content time) := by
  apply exists_file_of_load loaded
  by_contra absent
  rw [load, if_neg absent] at loaded
  exact filled (Except.ok.inj loaded).symm

/-- Where a ledger with fingerprints was loaded, what is saved then is loaded again. -/
theorem load_eq_of_loaded {former : Ledger} (sound : tree.Sound)
    (loaded : load tree cachePath = .ok former) (filled : former ≠ empty) (ordered : ledger.Ordered)
    (fits : ledger.Fits) (undiverted : tree.Undiverted cachePath)
    (saved : ledger.save cachePath tree = (.ok (), after)) : load after cachePath = .ok ledger := by
  obtain ⟨_, _, _, found⟩ := exists_file_of_filled loaded filled
  exact load_of_save_found sound found ordered fits undiverted saved

end Ledger

namespace Small

/-- Fingerprints under a name with all kinds of characters, and with great numbers. -/
def noted : Ledger :=
  (Ledger.empty.record file ⟨"A", 5000, 1⟩).record ⟨"/r/\"\\\n\x01😀"⟩
    ⟨"\t\"", 0xFFFFFFFFFFFFFFFF, 0⟩

theorem fits_noted : noted.Fits := by
  intro entry member
  rcases List.mem_pair.mp member with rfl | rfl <;> exact ⟨by decide, by decide⟩

/-- The path of a link that it leads over. -/
def roundabout : Path :=
  ⟨"/r/L/../L"⟩

/-- A link to a directory beside it. -/
def linked : FileTree where
  entries :=
    [ (["r"], .directory 5000),
      (["r", "D"], .directory 5000),
      (["r", "L"], .link "D") ]
  workingDirectory := []
  clock := 5000

end Small

end SourceHarvest
