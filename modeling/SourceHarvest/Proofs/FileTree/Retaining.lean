import SourceHarvest.Proofs.FileTree.Around

/-!
# What changes leave in place

Writing, renaming and making directories leave what lies at all other locations: files and links as
they are, and directories but for their times.  A path of plain names to a file that was left in
place, through directories that were, still leads to it.
-/

namespace SourceHarvest.FileTree

/-- What the tree holds at a location the other one holds there too; a directory can have another
time. -/
def Retains (tree other : FileTree) (location : Location) : Prop :=
  ∀ entry, tree.get? location = some entry → other.Holds (.present location entry)

/-- What happens between two trees spares a location: what the one holds there the other one holds
too, and nothing but a directory is new. -/
structure Spares (tree other : FileTree) (location : Location) : Prop where
  retains : Retains tree other location
  known : ∀ entry, other.get? location = some entry → entry.way ≠ .onward →
    tree.get? location = some entry

section Steps

variable {tree other : FileTree} {location place : Location} {entry : Entry}

theorem Retains.of_get? (same : other.get? location = tree.get? location) :
    Retains tree other location := by
  intro _ held
  rw [← same] at held
  exact ⟨way_of_get? held, fun _ => held⟩

theorem Retains.refl (tree : FileTree) (location : Location) : Retains tree tree location :=
  .of_get? rfl

theorem Retains.trans {middle : FileTree} (first : Retains tree middle location)
    (second : Retains middle other location) : Retains tree other location := by
  intro entry held
  rcases first entry held with ⟨way, kept⟩
  by_cases onward : entry.way = .onward
  · rcases get?_of_way_onward (way.trans onward) with ⟨time, directory⟩
    exact ⟨(second _ directory).1.trans onward.symm, fun calm => absurd onward calm⟩
  · exact second entry (kept onward)

/-- Where nothing is left, nothing was before. -/
theorem Retains.free (retains : Retains tree other location)
    (free : other.get? location = none) : tree.get? location = none := by
  cases stood : tree.get? location with
  | none => rfl
  | some entry =>
      obtain ⟨way, kept⟩ := retains entry stood
      by_cases onward : entry.way = .onward
      · obtain ⟨_, directory⟩ := get?_of_way_onward (way.trans onward)
        cases free.symm.trans directory
      · cases free.symm.trans (kept onward)

theorem Spares.of_get? (same : other.get? location = tree.get? location) :
    Spares tree other location where
  retains := .of_get? same
  known _ held _ := same ▸ held

theorem Spares.refl (tree : FileTree) (location : Location) : Spares tree tree location :=
  .of_get? rfl

theorem Spares.trans {middle : FileTree} (first : Spares tree middle location)
    (second : Spares middle other location) : Spares tree other location where
  retains := first.retains.trans second.retains
  known entry held calm := first.known entry (second.known entry held calm) calm

/-- Where everything is left in place, all that leads on does so in the same way. -/
theorem Grows.of_retains (workingDirectory : other.workingDirectory = tree.workingDirectory)
    (retains : ∀ location, Retains tree other location) : Grows tree other where
  workingDirectory := workingDirectory
  way location leads := by
    cases held : tree.get? location with
    | none =>
        have nowhere : tree.way location = .nowhere := by rw [FileTree.way, held]
        exact absurd nowhere leads
    | some entry => exact (retains location entry held).1.trans (way_of_get? held).symm

theorem spares_put (distinct : location ≠ place) : Spares tree (tree.put place entry) location :=
  .of_get? (get?_put_other tree entry distinct)

theorem retains_put (distinct : location ≠ place) : Retains tree (tree.put place entry) location :=
  (spares_put distinct).retains

theorem spares_renewAround : Spares tree (tree.renewAround place) location where
  retains entry held := by
    have way := way_of_get? held
    refine ⟨(way_renewAround location).trans way, fun calm => ?_⟩
    rwa [get?_renewAround (by rwa [way])]
  known entry held calm := by
    have way := way_of_get? held
    rw [way_renewAround] at way
    rwa [get?_renewAround (by rwa [way])] at held

theorem spares_enter (distinct : location ≠ place) :
    Spares tree (tree.enter place entry) location :=
  (spares_put distinct).trans spares_renewAround

/-- What leads nowhere stays so when something is entered elsewhere. -/
theorem get?_enter_other (distinct : location ≠ place) (calm : tree.way location ≠ .onward) :
    (tree.enter place entry).get? location = tree.get? location := by
  have same : (tree.put place entry).get? location = tree.get? location :=
    get?_put_other tree entry distinct
  rw [enter, get?_renewAround (by rwa [way_eq_of_get? same]), same]

theorem Sound.spares_erase (sound : tree.Sound) (blocked : tree.way place = .nowhere)
    (distinct : location ≠ place) : Spares tree (tree.erase place) location :=
  .of_get? (by rw [get?_erase_of_blocked sound blocked, if_neg distinct])

theorem Sound.retains_erase (sound : tree.Sound) (blocked : tree.way place = .nowhere)
    (distinct : location ≠ place) : Retains tree (tree.erase place) location :=
  (sound.spares_erase blocked distinct).retains

end Steps

section Operations

variable {tree after : FileTree} {path : Path} {place : Place} {location : Location}

/-- Only a free name is taken by a new directory. -/
theorem Furnishes.retains (furnishes : Furnishes tree after) : Retains tree after location := by
  obtain ⟨free, holds, rfl⟩ := furnishes
  intro entry held
  refine (spares_enter fun same => ?_).retains entry held
  rw [same, holds.1] at held
  cases held

theorem Retains.of_furnishings (furnishings : Relation.ReflTransGen Furnishes tree after) :
    Retains tree after location := by
  induction furnishings with
  | refl => exact .refl tree location
  | tail _ furnishes inductionHypothesis => exact inductionHypothesis.trans furnishes.retains

/-- Making directories leaves everything in place. -/
theorem Sound.retains_makeDirectories (sound : tree.Sound) (path : Path) :
    Retains tree (tree.makeDirectories path).2 location :=
  .of_furnishings (sound.furnishings_makeDirectories path)

/-- Writing changes nothing but what is written. -/
theorem Sound.spares_write (sound : tree.Sound) {content : ByteArray}
    (resolved : tree.resolve .filled path = .ok place)
    (written : tree.write path content = .ok after) (distinct : location ≠ place.location) :
    Spares tree after location := by
  simp only [write] at written
  cases placed : tree.placeToWrite path with
  | error failure =>
      rw [placed] at written
      cases written
  | ok found =>
      rw [placed] at written
      obtain rfl := Except.ok.inj (resolved.symm.trans (sound.placeToWrite_spec placed).1)
      cases place with
      | absent free =>
          cases written
          exact spares_enter distinct
      | present taken entry =>
          cases entry with
          | fullDevice =>
              simp only [bind, Except.bind] at written
              split at written
              · cases written
                exact .refl tree location
              · cases written
          | file | directory | link =>
              cases written
              exact spares_put distinct

/-- A file that is renamed is taken from its location, if it does not come back to it, and put at
another one. -/
theorem rename_eq {source target : Path} {origin : Location} {entry : Entry}
    (moved : tree.resolve .itself source = .ok (.present origin entry))
    (resolved : tree.resolve .itself target = .ok place)
    (renamed : tree.rename source target = .ok after) :
    after = if place.location = origin then tree
      else ((tree.erase origin).renewAround origin).enter place.location entry := by
  have settled (found : Place) (chosen : (if found.location = origin then .ok tree else
      .ok (((tree.erase origin).renewAround origin).enter found.location entry) :
        Except FileError FileTree) = .ok after) :
      after = if found.location = origin then tree
        else ((tree.erase origin).renewAround origin).enter found.location entry := by
    split at chosen <;> (cases chosen; rename_i here; simp only [here, if_true, if_false])
  simp only [rename, moved, bind, Except.bind] at renamed
  cases found : tree.resolve .itself (withoutFinalSlashes target) with
  | error failure =>
      rw [found] at renamed
      cases renamed
  | ok goal =>
      rw [found] at renamed
      simp only at renamed
      split at renamed
      · cases renamed
      split at renamed
      · cases renamed
      · rename_i bare
        rw [not_not.mp bare, resolved] at found
        obtain rfl := Except.ok.inj found
        cases place with
        | absent => exact settled _ renamed
        | present taken other =>
            cases other with
            | directory time => cases renamed
            | file | fullDevice | link => exact settled _ renamed

section Renaming

variable {source target : Path} {origin : Location} {entry : Entry} (sound : tree.Sound)
  (moved : tree.resolve .itself source = .ok (.present origin entry))
  (blocked : entry.way = .nowhere) (resolved : tree.resolve .itself target = .ok place)
  (renamed : tree.rename source target = .ok after)

include sound moved blocked resolved renamed

/-- Renaming a file changes nothing but the two locations. -/
theorem Sound.spares_rename (apart : location ≠ origin) (distinct : location ≠ place.location) :
    Spares tree after location := by
  have nowhere : tree.way origin = .nowhere := (sound.resolve_holds moved).1.trans blocked
  rw [rename_eq moved resolved renamed]
  split
  · exact .refl tree location
  · exact ((sound.spares_erase nowhere apart).trans spares_renewAround).trans (spares_enter distinct)

/-- A file that is renamed is no longer at its own location. -/
theorem Sound.get?_origin_of_rename (apart : place.location ≠ origin) : after.get? origin = none := by
  have nowhere : tree.way origin = .nowhere := (sound.resolve_holds moved).1.trans blocked
  have gone : (tree.erase origin).get? origin = none := by
    rw [get?_erase_of_blocked sound nowhere, if_pos rfl]
  have calm : (tree.erase origin).way origin ≠ .onward := by
    rw [FileTree.way, gone]
    exact Way.noConfusion
  rw [rename_eq moved resolved renamed, if_neg apart,
    get?_enter_other apart.symm (by rwa [way_renewAround]), get?_renewAround calm, gone]

end Renaming

end Operations

/-! ## What was there before -/

/-- All that the other tree holds is a directory, or the tree holds it too. -/
def AddsDirectories (tree other : FileTree) : Prop :=
  ∀ location entry, other.get? location = some entry → entry.way ≠ .onward →
    tree.get? location = some entry

theorem AddsDirectories.refl (tree : FileTree) : AddsDirectories tree tree :=
  fun _ _ held _ => held

theorem AddsDirectories.trans {tree middle other : FileTree} (first : AddsDirectories tree middle)
    (second : AddsDirectories middle other) : AddsDirectories tree other :=
  fun location entry held calm => first location entry (second location entry held calm) calm

section Adding

variable {tree after : FileTree} {path : Path}

theorem addsDirectories_enter {location : Location} (nonempty : location ≠ []) (time : Int) :
    AddsDirectories tree (tree.enter location (.directory time)) := by
  intro other entry held calm
  have blocked : (tree.put location (.directory time)).way other ≠ .onward := by
    rw [← way_renewAround, ← FileTree.enter, way_of_get? held]
    exact calm
  have kept : (tree.put location (.directory time)).get? other = some entry :=
    (get?_renewAround blocked).symm.trans held
  have distinct : other ≠ location := by
    rintro rfl
    rw [way_put nonempty, if_pos rfl] at blocked
    exact blocked rfl
  exact (get?_put_other tree _ distinct).symm.trans kept

theorem AddsDirectories.of_furnishings (furnishings : Relation.ReflTransGen Furnishes tree after) :
    AddsDirectories tree after := by
  induction furnishings with
  | refl => exact .refl tree
  | tail _ furnishes inductionHypothesis =>
      obtain ⟨location, holds, rfl⟩ := furnishes
      exact inductionHypothesis.trans
        (addsDirectories_enter (ne_nil_of_way_nowhere (way_absent holds)) _)

/-- Making directories adds nothing but directories. -/
theorem Sound.addsDirectories_makeDirectories (sound : tree.Sound) (path : Path) :
    AddsDirectories tree (tree.makeDirectories path).2 :=
  .of_furnishings (sound.furnishings_makeDirectories path)

end Adding

/-! ## Finding what was left in place -/

section Finding

variable {tree other : FileTree} {last : LastName} {here : Location} {names : List String}
  {entry : Entry}

/-- A walk along plain names to what leads nowhere goes the same way to the same end in a tree that
has left everything on the way in place. -/
theorem walkOn_eq_of_retains (nested : tree.Nested) (plain : ∀ name ∈ names, Path.IsPlain name)
    (nonempty : names ≠ []) (held : tree.get? (here ++ names) = some entry)
    (blocked : entry.way = .nowhere)
    (retains : ∀ part, part <+: names → Retains tree other (here ++ part))
    (follow otherFollow : Location → String → List String → Except FileError Place) :
    other.walkOn last otherFollow here names = tree.walkOn last follow here names := by
  induction names generalizing here with
  | nil => exact absurd rfl nonempty
  | cons name rest inductionHypothesis =>
      rcases plain name List.mem_cons_self with ⟨⟨_, filled, notDot⟩, forth⟩
      have named : ¬ (name = "." ∨ name = "") := fun void => void.elim notDot filled
      have kept := retains [name] (by simp)
      rw [walkOn, walkOn, if_neg named, if_neg named, if_neg forth, if_neg forth]
      by_cases ended : rest = []
      · subst ended
        have still : other.get? (here ++ [name]) = some entry :=
          (kept entry held).2 (Way.ne_onward_of_nowhere blocked)
        cases entry with
        | directory | link => cases blocked
        | file | fullDevice => simp only [held, still]
      · -- What lies further on lies below a directory, and that is one in both trees.
        have below : here ++ name :: rest = (here ++ [name]) ++ rest := by simp
        have inside : here ++ [name] <+: (here ++ name :: rest).dropLast := by
          rw [below, List.dropLast_append_of_ne_nil ended]
          exact List.prefix_append _ _
        have around : tree.way (here ++ [name]) = .onward :=
          nested.onward_of_prefix inside (nested _ _ held)
        rcases get?_of_way_onward around with ⟨time, directory⟩
        rcases get?_of_way_onward (kept _ directory).1 with ⟨otherTime, otherDirectory⟩
        simp only [directory, otherDirectory]
        rw [inductionHypothesis (fun name member => plain name (List.mem_cons_of_mem _ member))
          ended (below ▸ held) fun part inside => ?_]
        rw [List.append_assoc, List.singleton_append]
        exact retains _ ((List.cons_prefix_cons).mpr ⟨rfl, inside⟩)

/-- A path of plain names finds what was left in place. -/
theorem Sound.find_eq_of_retains (sound : tree.Sound) (plain : ∀ name ∈ names, Path.IsPlain name)
    (nonempty : names ≠ []) (held : tree.get? names = some entry) (blocked : entry.way = .nowhere)
    (retains : ∀ part, part <+: names → Retains tree other part) :
    other.find (Path.ofNames names) = tree.find (Path.ofNames names) := by
  have walks : other.walk greatestLinkCount .followed [] names =
      tree.walk greatestLinkCount .followed [] names := by
    rw [walk_eq_walkOn, walk_eq_walkOn]
    rw [← List.nil_append names] at held
    exact walkOn_eq_of_retains sound.nested plain nonempty held blocked retains _ _
  simp only [find, resolve, Path.steps_ofNames nonempty fun name member => (plain name member).1,
    Path.isAbsolute_ofNames, if_true, walks]

end Finding

end SourceHarvest.FileTree
