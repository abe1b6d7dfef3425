import SourceHarvest.Proofs.FileTree.Changes

/-!
# Trees that agree around a directory

A tree can change below a directory in any way and stay the same around it.  A walk along plain
names that comes past no link ends where the names say, and it finds the same in both trees as long
as it keeps out of that directory.
-/

namespace SourceHarvest

namespace Path

/-- A name that a walk takes as it is: it stays within its directory and leads out of none. -/
def IsPlain (name : String) : Prop :=
  IsName name ∧ name ≠ ".."

instance : DecidablePred IsPlain := fun name =>
  inferInstanceAs (Decidable (IsName name ∧ name ≠ ".."))

theorem steps_ofNames {names : List String} (nonempty : names ≠ [])
    (legal : ∀ name ∈ names, IsName name) : FileTree.steps (ofNames names) = names := by
  have parts : (Text.splitAtMark '/' (ofNames names).text.toList).map String.ofList = "" :: names := by
    rw [toList_ofNames, ← List.nil_append ('/' :: _), Text.splitAtMark_append_mark (by simp),
      Text.splitAtMark_joinWithMark (by simpa using nonempty)]
    · rw [List.map_cons, List.map_map]
      congr 1
      refine (List.map_congr_left fun name _ => ?_).trans (List.map_id _)
      exact String.ofList_toList
    · intro part member
      rcases List.mem_map.mp member with ⟨name, inside, rfl⟩
      exact (legal name inside).1
  have named : ("" :: names).filter (· != "") = names := by
    rw [List.filter_cons_of_neg (by simp), List.filter_eq_self]
    intro name member
    simpa using (legal name member).2.1
  have last : ("" :: names).getLast? ≠ some "" := by
    rw [List.getLast?_cons_of_ne_nil nonempty]
    intro blank
    exact (legal "" (List.mem_of_getLast? blank)).2.1 rfl
  rw [FileTree.steps, parts]
  simp only [named, if_neg last]

end Path

namespace FileTree

/-! ## Walks along plain names -/

variable {tree other : FileTree} {last : LastName} {links : Nat} {here : Location}
  {names : List String} {place : Place}

/-- No link lies on the way along names, not even at its end. -/
def Unlinked (tree : FileTree) (here : Location) (names : List String) : Prop :=
  ∀ part target, part ≠ [] → part <+: names → tree.way (here ++ part) ≠ .follow target

theorem Unlinked.head {name : String} {rest : List String}
    (unlinked : tree.Unlinked here (name :: rest)) (target : String) :
    tree.get? (here ++ [name]) ≠ some (.link target) := by
  intro held
  exact unlinked [name] target (by simp) (by simp) (way_of_get? held)

theorem Unlinked.tail {name : String} {rest : List String}
    (unlinked : tree.Unlinked here (name :: rest)) : tree.Unlinked (here ++ [name]) rest := by
  intro part target _ inside follow
  refine unlinked (name :: part) target (by simp) ((List.cons_prefix_cons).mpr ⟨rfl, inside⟩) ?_
  rwa [List.append_cons]

/-- In a tree without links there is none on any way. -/
theorem unlinked_of_entries (unlike : ∀ held ∈ tree.entries, ∀ target, held.2 ≠ .link target) :
    tree.Unlinked here names := by
  intro part target nonempty _ follow
  have held := get?_of_way_follow follow
  exact unlike _ (mem_of_get? (by simp [nonempty]) held) target rfl

/-- A walk along plain names past no link ends where the names say. -/
theorem Walks.location_eq (walks : Walks tree last links here names place)
    (plain : ∀ name ∈ names, Path.IsPlain name) (unlinked : tree.Unlinked here names) :
    place.location = here ++ names := by
  induction walks with
  | stay => exact (List.append_nil _).symm
  | pass void =>
      rcases plain _ List.mem_cons_self with ⟨⟨_, nonempty, notDot⟩, _⟩
      exact (void.elim notDot nonempty).elim
  | up => exact absurd rfl (plain _ List.mem_cons_self).2
  | into _ _ _ inductionHypothesis =>
      rw [inductionHypothesis (fun name member => plain name (List.mem_cons_of_mem _ member))
        unlinked.tail, List.append_assoc, List.singleton_append]
  | follow _ held => exact absurd held (unlinked.head _)
  | atLink | atEntry | free => rfl

/-- A walk along plain names past no link does not end at one. -/
theorem Walks.ne_link (walks : Walks tree last links here names place)
    (plain : ∀ name ∈ names, Path.IsPlain name) (unlinked : tree.Unlinked here names)
    (location : Location) (target : String) : place ≠ .present location (.link target) := by
  induction walks with
  | stay | free => exact fun impossible => by cases impossible
  | pass void =>
      rcases plain _ List.mem_cons_self with ⟨⟨_, nonempty, notDot⟩, _⟩
      exact (void.elim notDot nonempty).elim
  | up => exact absurd rfl (plain _ List.mem_cons_self).2
  | into _ _ _ inductionHypothesis =>
      exact inductionHypothesis (fun name member => plain name (List.mem_cons_of_mem _ member))
        unlinked.tail
  | follow _ held => exact absurd held (unlinked.head _)
  | atLink _ held => exact absurd held (unlinked.head _)
  | atEntry _ _ blocked =>
      intro same
      cases same
      cases blocked

/-- A walk along plain names past no link sees nothing but what lies on this way. -/
theorem walkOn_congr (nonempty : names ≠ []) (plain : ∀ name ∈ names, Path.IsPlain name)
    (unlinked : tree.Unlinked here names)
    (same : ∀ part, part ≠ [] → part <+: names →
      other.get? (here ++ part) = tree.get? (here ++ part))
    (follow otherFollow : Location → String → List String → Except FileError Place) :
    other.walkOn last otherFollow here names = tree.walkOn last follow here names := by
  induction names generalizing here with
  | nil => exact absurd rfl nonempty
  | cons name rest inductionHypothesis =>
      rcases plain name List.mem_cons_self with ⟨⟨_, filled, notDot⟩, forth⟩
      have named : ¬ (name = "." ∨ name = "") := fun void => void.elim notDot filled
      have alike := same [name] (by simp) (by simp)
      have further (time : Int) (held : tree.get? (here ++ [name]) = some (.directory time)) :
          other.walkOn last otherFollow (here ++ [name]) rest =
            tree.walkOn last follow (here ++ [name]) rest := by
        cases rest with
        | nil =>
            rw [walkOn, walkOn, modifiedAt?, modifiedAt?, alike, held]
            rfl
        | cons next more =>
            refine inductionHypothesis (List.cons_ne_nil _ _)
              (fun name member => plain name (List.mem_cons_of_mem _ member))
              unlinked.tail fun part nonempty inside => ?_
            rw [List.append_assoc, List.singleton_append]
            exact same _ (List.cons_ne_nil _ _) ((List.cons_prefix_cons).mpr ⟨rfl, inside⟩)
      rw [walkOn, walkOn, if_neg named, if_neg named, if_neg forth, if_neg forth]
      simp only [alike]
      cases held : tree.get? (here ++ [name]) with
      | none => rfl
      | some entry =>
          cases entry with
          | link target => exact absurd held (unlinked.head target)
          | file | fullDevice => rfl
          | directory time => simp only [further time held]

/-! ## A directory and what is around it -/

/-- The trees agree on all that is not below the directory at a location, and it stays a
directory in both or in none. -/
structure SameAround (around : Location) (tree other : FileTree) : Prop where
  workingDirectory : other.workingDirectory = tree.workingDirectory
  held : ∀ location, ¬ around <+: location → other.get? location = tree.get? location
  way : other.way around = tree.way around

/-- The trees have the same links, except below the directory at a location. -/
structure SameLinksAround (around : Location) (tree other : FileTree) : Prop where
  workingDirectory : other.workingDirectory = tree.workingDirectory
  follow : ∀ location target, (around <+: location → location = around) →
    (other.way location = .follow target ↔ tree.way location = .follow target)

theorem SameLinksAround.refl (around : Location) (tree : FileTree) :
    SameLinksAround around tree tree :=
  ⟨rfl, fun _ _ _ => Iff.rfl⟩

theorem SameLinksAround.trans {around : Location} {tree middle other : FileTree}
    (first : SameLinksAround around tree middle) (second : SameLinksAround around middle other) :
    SameLinksAround around tree other :=
  ⟨second.workingDirectory.trans first.workingDirectory, fun location target outside =>
    (second.follow location target outside).trans (first.follow location target outside)⟩

theorem SameLinks.around {tree other : FileTree} (same : SameLinks tree other)
    (around : Location) : SameLinksAround around tree other :=
  ⟨same.workingDirectory, fun location target _ => same.follow location target⟩

theorem SameAround.sameLinks {around : Location} {tree other : FileTree}
    (same : SameAround around tree other) : SameLinksAround around tree other where
  workingDirectory := same.workingDirectory
  follow location target outside := by
    by_cases inside : around <+: location
    · rw [outside inside, same.way]
    · rw [way_eq_of_get? (same.held location inside)]

/-- Names that leave the directory alone have no links in other trees either. -/
theorem Unlinked.of_around {around : Location} {tree other : FileTree}
    (links : SameLinksAround around tree other) (outside : ¬ around <+: names)
    (unlinked : tree.Unlinked [] names) : other.Unlinked [] names := by
  intro part target nonempty inside follow
  refine unlinked part target nonempty inside ((links.follow _ _ fun below => ?_).mp follow)
  exact absurd (below.trans inside) outside

/-- A path of plain names that keeps out of the directory finds the same around it. -/
theorem SameAround.find_eq {around : Location} {tree other : FileTree}
    (same : SameAround around tree other) (nonempty : names ≠ [])
    (plain : ∀ name ∈ names, Path.IsPlain name) (outside : ¬ around <+: names)
    (unlinked : tree.Unlinked [] names) :
    other.find (Path.ofNames names) = tree.find (Path.ofNames names) := by
  have walks : other.walk greatestLinkCount .followed [] names =
      tree.walk greatestLinkCount .followed [] names := by
    rw [walk_eq_walkOn, walk_eq_walkOn]
    exact walkOn_congr nonempty plain unlinked
      (fun part _ inside => same.held _ fun below => outside (below.trans inside)) _ _
  simp only [find, resolve, Path.steps_ofNames nonempty fun name member => (plain name member).1,
    Path.isAbsolute_ofNames, if_true, walks]

/-- What a path of plain names past no link leads to lies where the names say, and is no link. -/
theorem resolve_ofNames_spec (nonempty : names ≠ []) (plain : ∀ name ∈ names, Path.IsPlain name)
    (unlinked : tree.Unlinked [] names)
    (resolved : tree.resolve last (Path.ofNames names) = .ok place) :
    place.location = names ∧ ∀ location target, place ≠ .present location (.link target) := by
  have walks := (resolve_eq_ok_iff.mp resolved).2
  rw [start, Path.isAbsolute_ofNames, if_pos rfl,
    Path.steps_ofNames nonempty fun name member => (plain name member).1] at walks
  exact ⟨walks.location_eq plain unlinked, walks.ne_link plain unlinked⟩

/-- No link lies on the way to what a sound tree holds, if it is no link itself. -/
theorem Sound.unlinked (sound : tree.Sound) {entry : Entry} (held : tree.get? names = some entry)
    (unlike : ∀ target, entry ≠ .link target) : tree.Unlinked [] names := by
  intro part target _ inside follow
  by_cases whole : part = names
  · have found := get?_of_way_follow follow
    rw [List.nil_append, whole, held] at found
    exact unlike target (Option.some.inj found)
  · have gone := sound.nested.get?_below inside (Ne.symm whole) (by
      rw [List.nil_append] at follow
      rw [follow]
      exact fun impossible => by cases impossible)
    rw [held] at gone
    cases gone

/-- What a path leads to is in the tree and no link, and its names are proper ones. -/
theorem Sound.find_spec (sound : tree.Sound) {path : Path} {location : Location} {entry : Entry}
    (found : tree.find path = .ok (location, entry)) :
    (∃ held, tree.get? location = some held ∧ ∀ target, held ≠ .link target) ∧
      ∀ name ∈ location, Path.IsName name := by
  have resolved := find_eq_ok_iff.mp found
  obtain ⟨way, held⟩ : tree.Holds (.present location entry) := sound.resolve_holds resolved
  have there : ∃ held, tree.get? location = some held ∧ ∀ target, held ≠ .link target := by
    by_cases onward : entry.way = .onward
    · rcases get?_of_way_onward (way.trans onward) with ⟨time, directory⟩
      exact ⟨_, directory, fun target impossible => by cases impossible⟩
    · refine ⟨entry, held onward, ?_⟩
      rintro target rfl
      cases (resolve_eq_ok_iff.mp resolved).2.itself_of_link
  exact ⟨there, sound.named_of_get? there.choose_spec.1⟩

/-- A canonical path leads to the location of its names. -/
theorem Sound.location_eq_of_canonicalize (sound : tree.Sound) {path : Path}
    (plain : ∀ name ∈ names, Path.IsPlain name)
    (canonical : tree.canonicalize path = .ok (Path.ofNames names))
    {location : Location} {entry : Entry}
    (found : tree.find (Path.ofNames names) = .ok (location, entry)) : location = names := by
  rcases canonicalize_eq_ok canonical with ⟨origin, first, reached, same⟩
  rcases sound.find_spec reached with ⟨⟨held, there, unlike⟩, legal⟩
  obtain rfl := Path.ofNames_injective (fun name member => (plain name member).1) legal same
  have resolved := find_eq_ok_iff.mp found
  by_cases nonempty : names = []
  · subst nonempty
    have walks := (resolve_eq_ok_iff.mp resolved).2
    rw [start, Path.isAbsolute_ofNames, if_pos rfl,
      show steps (Path.ofNames []) = [""] by decide] at walks
    have walked := walks.walk_eq
    rw [walk_eq_walkOn, walkOn, if_pos (.inr rfl), walkOn] at walked
    cases walked
    rfl
  · exact (resolve_ofNames_spec nonempty plain (sound.unlinked there unlike) resolved).1

/-! ## Trees in which no time passes -/

/-- Everything in the tree was changed at the same time, which is the present. -/
def Still (tree : FileTree) (time : Int) : Prop :=
  tree.clock = time ∧ ∀ held ∈ tree.entries, tree.modifiedAt? held.1 ∈ [none, some time]

theorem Still.of_modifiedAt? {time found : Int} (still : tree.Still time) {location : Location}
    (modified : tree.modifiedAt? location = some found) : found = time := by
  by_cases nonempty : location = []
  · subst nonempty
    exact (Option.some.inj modified).symm.trans still.1
  · cases held : tree.get? location with
    | none =>
        rw [modifiedAt?, held] at modified
        cases modified
    | some entry =>
        have known := still.2 _ (mem_of_get? nonempty held)
        rw [modified] at known
        simpa using known

/-- A directory that is found was changed when the tree says, or at present. -/
theorem Walks.modified_eq {modified : Int} {location : Location}
    (walks : Walks tree last links here names (.present location (.directory modified))) :
    modified = (tree.modifiedAt? location).getD tree.clock := by
  generalize ended : Place.present location (.directory modified) = place at walks
  induction walks with
  | stay =>
      cases ended
      rfl
  | pass _ _ inductionHypothesis | up _ inductionHypothesis | into _ _ _ inductionHypothesis
  | follow _ _ _ _ inductionHypothesis => exact inductionHypothesis ended
  | atLink | free => cases ended
  | atEntry _ _ blocked =>
      cases ended
      cases blocked

/-- In a tree in which no time passes there is but one time to find. -/
theorem Still.modified_eq {time found : Int} (still : tree.Still time) (sound : tree.Sound)
    {path : Path} (modified : tree.modified path = .ok found) : found = time := by
  rw [FileTree.modified] at modified
  cases reached : tree.find path with
  | error failure =>
      rw [reached] at modified
      cases modified
  | ok result =>
      rcases result with ⟨location, entry⟩
      rw [reached] at modified
      have resolved := find_eq_ok_iff.mp reached
      cases entry with
      | file content moment =>
          cases modified
          have held := (sound.resolve_holds resolved).2 (by simp [Entry.way])
          exact still.of_modifiedAt? (by rw [modifiedAt?, held])
      | directory moment =>
          cases modified
          rw [(resolve_eq_ok_iff.mp resolved).2.modified_eq]
          cases known : tree.modifiedAt? location with
          | none => exact still.1
          | some moment => exact still.of_modifiedAt? known
      | link | fullDevice =>
          cases modified
          exact still.1

end FileTree

end SourceHarvest
