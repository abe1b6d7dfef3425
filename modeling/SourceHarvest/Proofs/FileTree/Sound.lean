import SourceHarvest.Proofs.FileTree.Ways
import Mathlib.Data.List.Induction

/-!
# Sound file trees

In a sound tree each location has one entry, proper names lead to it, and it lies in
directories.  What runs do to a tree keeps it sound: a change at one location leaves the
ways at all others as they are.
-/

namespace SourceHarvest.FileTree

/-- Each location of the tree has one entry, proper names lead to it through directories, and the
working directory is one of them. -/
structure Sound (tree : FileTree) : Prop where
  distinct : (tree.entries.map (·.1)).Nodup
  named : ∀ held ∈ tree.entries, ∀ name ∈ held.1, Path.IsName name
  nested : tree.Nested
  standing : tree.way tree.workingDirectory = .onward

/-- What a location holds stands in the table, unless the location is the root. -/
theorem mem_of_get? {tree : FileTree} {location : Location} {entry : Entry}
    (nonempty : location ≠ []) (held : tree.get? location = some entry) :
    (location, entry) ∈ tree.entries := by
  cases location with
  | nil => exact absurd rfl nonempty
  | cons name rest =>
      rcases List.lookup_eq_some_iff.mp held with ⟨before, after, split, _⟩
      rw [split]
      exact List.mem_append_right _ List.mem_cons_self

theorem Sound.named_of_get? {tree : FileTree} (sound : tree.Sound) {location : Location}
    {entry : Entry} (held : tree.get? location = some entry) :
    ∀ name ∈ location, Path.IsName name := by
  cases location with
  | nil => exact fun _ impossible => (List.not_mem_nil impossible).elim
  | cons name rest => exact sound.named _ (mem_of_get? (List.cons_ne_nil _ _) held)

/-- It is enough to look at the entries of a tree to see that each lies in a directory. -/
theorem nested_of_entries {tree : FileTree}
    (around : ∀ held ∈ tree.entries, tree.way held.1.dropLast = .onward) : tree.Nested := by
  intro location entry held
  by_cases nonempty : location = []
  · subst nonempty
    exact way_root tree
  · exact around _ (mem_of_get? nonempty held)

/-- All that lies around a directory is a directory. -/
theorem Nested.onward_of_prefix {tree : FileTree} (nested : tree.Nested) {around location : Location}
    (inside : around <+: location) (onward : tree.way location = .onward) :
    tree.way around = .onward := by
  rcases inside with ⟨rest, rfl⟩
  induction rest using List.reverseRecOn with
  | nil => simpa using onward
  | append_singleton rest name inductionHypothesis =>
      apply inductionHypothesis
      have outer := nested.dropLast onward
      rwa [← List.append_assoc, List.dropLast_concat] at outer

/-- Nothing lies below what is no directory. -/
theorem Nested.get?_below {tree : FileTree} (nested : tree.Nested) {around location : Location}
    (inside : around <+: location) (distinct : location ≠ around)
    (blocked : tree.way around ≠ .onward) : tree.get? location = none := by
  cases held : tree.get? location with
  | none => rfl
  | some entry =>
      rcases inside with ⟨rest, rfl⟩
      have nonempty : rest ≠ [] := fun none => distinct (by rw [none, List.append_nil])
      have outer := nested _ _ held
      rw [List.dropLast_append_of_ne_nil nonempty] at outer
      exact absurd (nested.onward_of_prefix (List.prefix_append _ _) outer) blocked

/-! ## Single changes -/

section Changes

variable {tree : FileTree} {location : Location} {entry : Entry}

theorem way_put (nonempty : location ≠ []) (other : Location) :
    (tree.put location entry).way other =
      if other = location then entry.way else tree.way other := by
  split
  · rename_i same
    rw [same, way_of_get? (get?_put_self tree location entry nonempty)]
  · rename_i distinct
    exact way_eq_of_get? (get?_put_other tree entry distinct)

/-- An entry can be put in place of one that does not lead on, or as a directory. -/
theorem Sound.put (sound : tree.Sound) (nonempty : location ≠ [])
    (named : ∀ name ∈ location, Path.IsName name) (around : tree.way location.dropLast = .onward)
    (stays : tree.way location = .onward → entry.way = .onward) :
    (tree.put location entry).Sound := by
  have onward {other : Location} (leads : tree.way other = .onward) :
      (tree.put location entry).way other = .onward := by
    rw [way_put nonempty]
    split
    · rename_i same
      exact stays (same ▸ leads)
    · exact leads
  constructor
  · rw [FileTree.put, List.map_cons, List.nodup_cons]
    constructor
    · intro member
      rcases List.mem_map.mp member with ⟨held, inside, same⟩
      have distinct := (List.mem_filter.mp inside).2
      simp [same] at distinct
    · exact sound.distinct.sublist (List.filter_sublist.map _)
  · intro held member
    rcases List.mem_cons.mp member with rfl | old
    · exact named
    · exact sound.named held (List.mem_filter.mp old).1
  · intro other found held
    by_cases same : other = location
    · exact onward (same ▸ around)
    · rw [get?_put_other tree entry same] at held
      exact onward (sound.nested other found held)
  · exact onward sound.standing

theorem renewAround_eq (tree : FileTree) (location : Location) :
    tree.renewAround location = tree ∨ location.dropLast ≠ [] ∧
      (∃ time, tree.get? location.dropLast = some (.directory time)) ∧
      tree.renewAround location = tree.put location.dropLast (.directory tree.clock) := by
  rw [renewAround]
  split
  · exact .inl rfl
  · rename_i around time held inner
    exact .inr ⟨inner, ⟨_, held⟩, rfl⟩
  · exact .inl rfl

/-- When the names in a directory change, nothing but the time of the directory does. -/
theorem way_renewAround (other : Location) :
    (tree.renewAround location).way other = tree.way other := by
  rcases renewAround_eq tree location with same | ⟨inner, ⟨time, held⟩, renewed⟩
  · rw [same]
  · rw [renewed, way_put inner]
    split
    · rename_i here
      rw [here, way_of_get? held]
      rfl
    · rfl

theorem get?_renewAround {other : Location} (blocked : tree.way other ≠ .onward) :
    (tree.renewAround location).get? other = tree.get? other := by
  rcases renewAround_eq tree location with same | ⟨inner, ⟨time, held⟩, renewed⟩
  · rw [same]
  · rw [renewed, get?_put_other]
    intro here
    exact blocked (here ▸ way_of_get? held)

theorem Sound.renewAround (sound : tree.Sound) : (tree.renewAround location).Sound := by
  rcases renewAround_eq tree location with same | ⟨inner, ⟨time, held⟩, renewed⟩
  · rwa [same]
  · rw [renewed]
    exact sound.put inner (sound.named_of_get? held) (sound.nested _ _ held) (fun _ => rfl)

theorem workingDirectory_renewAround :
    (tree.renewAround location).workingDirectory = tree.workingDirectory := by
  rcases renewAround_eq tree location with same | ⟨_, _, renewed⟩
  · rw [same]
  · rw [renewed]
    rfl

/-- What lies at a location or below it is gone when the location is taken out. -/
theorem get?_erase (tree : FileTree) (location : Location) {other : Location} (inside : other ≠ []) :
    (tree.erase location).get? other =
      if location.isPrefixOf other then none else tree.get? other := by
  have lookup : (tree.entries.filter fun held => !location.isPrefixOf held.1).lookup other =
      if location.isPrefixOf other then none else tree.entries.lookup other := by
    induction tree.entries with
    | nil => simp
    | cons held rest inductionHypothesis =>
        rcases held with ⟨place, entry⟩
        by_cases same : other = place
        · subst same
          cases under : location.isPrefixOf other <;>
            simp [under, inductionHypothesis]
        · have apart : (other == place) = false := by simpa using same
          cases under : location.isPrefixOf place <;>
            simp [under, List.lookup_cons, apart, inductionHypothesis]
  cases other with
  | nil => exact absurd rfl inside
  | cons name rest => exact lookup

theorem get?_erase_of_calm (sound : tree.Sound) (calm : tree.way location ≠ .onward)
    (other : Location) :
    (tree.erase location).get? other = if other = location then none else tree.get? other := by
  by_cases root : other = []
  · rw [root, if_neg]
    · rfl
    · rintro rfl
      exact calm (way_root tree)
  · rw [get?_erase tree location root]
    by_cases same : other = location
    · simp [same]
    · rw [if_neg same]
      split
      · rename_i under
        exact (sound.nested.get?_below (List.isPrefixOf_iff_prefix.mp under) same calm).symm
      · rfl

theorem get?_erase_of_blocked (sound : tree.Sound) (blocked : tree.way location = .nowhere)
    (other : Location) :
    (tree.erase location).get? other = if other = location then none else tree.get? other :=
  get?_erase_of_calm sound (Way.ne_onward_of_nowhere blocked) other

theorem Sound.erase (sound : tree.Sound) (blocked : tree.way location = .nowhere) :
    (tree.erase location).Sound := by
  have onward {other : Location} (leads : tree.way other = .onward) :
      (tree.erase location).way other = .onward := by
    rw [← leads]
    apply way_eq_of_get?
    rw [get?_erase_of_blocked sound blocked, if_neg]
    rintro rfl
    cases leads.symm.trans blocked
  constructor
  · exact sound.distinct.sublist (List.filter_sublist.map _)
  · exact fun held member => sound.named held (List.mem_filter.mp member).1
  · intro other found held
    rw [get?_erase_of_blocked sound blocked] at held
    split at held
    · cases held
    · exact onward (sound.nested other found held)
  · exact onward sound.standing

/-- One tree is another one with an entry at one location, and has the same ways besides. -/
structure Changes (tree after : FileTree) (location : Location) (entry : Option Entry) : Prop where
  workingDirectory : after.workingDirectory = tree.workingDirectory
  held : after.get? location = entry
  way : ∀ other, other ≠ location → after.way other = tree.way other

/-- All that leads on in the tree leads on in the same way in another one. -/
structure Grows (tree other : FileTree) : Prop where
  workingDirectory : other.workingDirectory = tree.workingDirectory
  way : ∀ location, tree.way location ≠ .nowhere → other.way location = tree.way location

/-- What is put where nothing led on leaves all that leads on as it is. -/
theorem Changes.grows {after : FileTree} {found : Option Entry}
    (changes : Changes tree after location found) (nowhere : tree.way location = .nowhere) :
    Grows tree after where
  workingDirectory := changes.workingDirectory
  way other leads := changes.way other fun same => leads (same ▸ nowhere)

theorem changes_put (nonempty : location ≠ []) :
    Changes tree (tree.put location entry) location (some entry) where
  workingDirectory := rfl
  held := get?_put_self tree location entry nonempty
  way other distinct := by rw [way_put nonempty, if_neg distinct]

theorem changes_erase (sound : tree.Sound) (blocked : tree.way location = .nowhere) :
    Changes tree (tree.erase location) location none where
  workingDirectory := rfl
  held := by rw [get?_erase_of_blocked sound blocked, if_pos rfl]
  way other distinct := by
    apply way_eq_of_get?
    rw [get?_erase_of_blocked sound blocked, if_neg distinct]

/-- Renewed times around a change come to nothing more. -/
theorem Changes.renewAround {after : FileTree} {found : Option Entry} {near : Location}
    (changes : Changes tree after location found) (blocked : after.way location ≠ .onward) :
    Changes tree (after.renewAround near) location found where
  workingDirectory := workingDirectory_renewAround.trans changes.workingDirectory
  held := (get?_renewAround blocked).trans changes.held
  way other distinct := (way_renewAround other).trans (changes.way other distinct)

theorem changes_enter (tree : FileTree) (nonempty : location ≠ []) (blocked : entry.way ≠ .onward) :
    Changes tree (tree.enter location entry) location (some entry) :=
  (changes_put nonempty).renewAround (by rwa [way_put nonempty, if_pos rfl])

theorem Sound.enter (sound : tree.Sound) (nonempty : location ≠ [])
    (named : ∀ name ∈ location, Path.IsName name) (around : tree.way location.dropLast = .onward)
    (stays : tree.way location = .onward → entry.way = .onward) :
    (tree.enter location entry).Sound :=
  (sound.put nonempty named around stays).renewAround

end Changes

/-! ## Resolving in sound trees -/

section Resolving

variable {tree : FileTree} {path : Path} {last : LastName} {place : Place}

/-- Where following a path starts. -/
def start (tree : FileTree) (path : Path) : Location :=
  if path.isAbsolute then [] else tree.workingDirectory

theorem resolve_eq_ok_iff :
    tree.resolve last path = .ok place ↔ refusal? path.text = none ∧
      Walks tree last greatestLinkCount (tree.start path) (steps path) place := by
  rw [resolve]
  cases refused : refusal? path.text with
  | some refusal => simp
  | none =>
      constructor
      · exact fun walked => ⟨rfl, .of_walk walked⟩
      · exact fun both => both.2.walk_eq

theorem Sound.way_start (sound : tree.Sound) (path : Path) : tree.way (tree.start path) = .onward := by
  rw [start]
  split
  · exact way_root tree
  · exact sound.standing

/-- A path leads to what the tree holds. -/
theorem Sound.resolve_holds (sound : tree.Sound) (resolved : tree.resolve last path = .ok place) :
    tree.Holds place :=
  (resolve_eq_ok_iff.mp resolved).2.holds sound.nested (sound.way_start path)
    fun _ => not_mem_of_mem_steps

/-- A path to what does not lead on leads there in every tree that has grown out of the tree. -/
theorem Sound.resolve_of_grows (sound : tree.Sound) {other : FileTree} (grows : Grows tree other)
    (resolved : tree.resolve last path = .ok place)
    (nowhere : tree.way place.location = .nowhere) {entry : Entry}
    (held : other.get? place.location = some entry) (blocked : entry.way = .nowhere)
    {goal : LastName} (alike : goal = last ∨ goal = .followed) :
    other.resolve goal path = .ok (.present place.location entry) := by
  rcases resolve_eq_ok_iff.mp resolved with ⟨accepted, walks⟩
  refine resolve_eq_ok_iff.mpr ⟨accepted, ?_⟩
  have begins : other.start path = tree.start path := by
    rw [start, start, grows.workingDirectory]
  rw [begins]
  exact walks.transfer sound.nested (sound.way_start path) nowhere grows.way held blocked alike

/-- A path to what does not lead on leads there in every tree with the same ways. -/
theorem Sound.resolve_transfer (sound : tree.Sound) {other : FileTree}
    (resolved : tree.resolve last path = .ok place)
    (nowhere : tree.way place.location = .nowhere) {entry : Entry}
    (changes : Changes tree other place.location (some entry)) (blocked : entry.way = .nowhere)
    {goal : LastName} (alike : goal = last ∨ goal = .followed) :
    other.resolve goal path = .ok (.present place.location entry) :=
  sound.resolve_of_grows (changes.grows nowhere) resolved nowhere changes.held blocked alike

/-- A path that is not that of a link is filled where it leads itself. -/
theorem resolve_itself_of_filled
    (plain : ∀ location target, tree.resolve .itself path ≠ .ok (.present location (.link target)))
    (filled : tree.resolve .filled path = .ok place) : tree.resolve .itself path = .ok place := by
  obtain ⟨accepted, walks⟩ := resolve_eq_ok_iff.mp filled
  refine resolve_eq_ok_iff.mpr ⟨accepted, walks.itself_of_filled fun location target linked => ?_⟩
  exact plain location target (resolve_eq_ok_iff.mpr ⟨accepted, linked⟩)

theorem find_eq_ok_iff {location : Location} {entry : Entry} :
    tree.find path = .ok (location, entry) ↔
      tree.resolve .followed path = .ok (.present location entry) := by
  rw [find]
  cases tree.resolve .followed path with
  | error failure =>
      constructor <;> (intro impossible; cases impossible)
  | ok place =>
      cases place with
      | absent =>
          constructor <;> (intro impossible; cases impossible)
      | present => constructor <;> (intro same; cases same; rfl)

end Resolving

end SourceHarvest.FileTree
