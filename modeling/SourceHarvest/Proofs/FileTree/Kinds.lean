import SourceHarvest.Proofs.FileTree.Changes

/-!
# Trees with entries of the same kinds

Whether an operation on a tree succeeds, and why it fails, depends on where there are directories,
files and links, and on no bytes and no times.  So in two trees with entries of the same kinds an
operation comes to the same, and leaves trees with entries of the same kinds behind.
-/

namespace SourceHarvest

/-- The entries differ in nothing but bytes and times. -/
inductive Entry.Alike : Entry → Entry → Prop where
  | directory (time other : Int) : Alike (.directory time) (.directory other)
  | file (content : ByteArray) (time : Int) (other : ByteArray) (otherTime : Int) :
      Alike (.file content time) (.file other otherTime)
  | link (target : String) : Alike (.link target) (.link target)
  | fullDevice : Alike .fullDevice .fullDevice

theorem Entry.Alike.refl (entry : Entry) : entry.Alike entry := by
  cases entry <;> constructor

theorem Entry.Alike.trans {first second third : Entry} (alike : first.Alike second)
    (further : second.Alike third) : first.Alike third := by
  cases alike <;> cases further <;> constructor

namespace FileTree

/-- The places have the same location, with alike entries or with none. -/
inductive Place.Alike : Place → Place → Prop where
  | present (location : Location) {entry other : Entry} (alike : entry.Alike other) :
      Alike (.present location entry) (.present location other)
  | absent (location : Location) : Alike (.absent location) (.absent location)

/-- Two results are successes that are related, or failures for the same reason. -/
inductive Ends {α β : Type} (related : α → β → Prop) :
    Except FileError α → Except FileError β → Prop where
  | error (failure : FileError) : Ends related (.error failure) (.error failure)
  | ok {left : α} {right : β} (same : related left right) : Ends related (.ok left) (.ok right)

/-- Related results stay related when work goes on with them in related ways. -/
theorem Ends.bind {α β γ δ : Type} {related : α → β → Prop} {further : γ → δ → Prop}
    {left : Except FileError α} {right : Except FileError β} {next : α → Except FileError γ}
    {otherNext : β → Except FileError δ} (ends : Ends related left right)
    (goesOn : ∀ value other, related value other → Ends further (next value) (otherNext other)) :
    Ends further (left >>= next) (right >>= otherNext) := by
  cases ends with
  | error failure => exact .error failure
  | ok same => exact goesOn _ _ same

/-- Two trees have the same working directory, and alike entries at the same locations. -/
structure SameKinds (tree other : FileTree) : Prop where
  workingDirectory : other.workingDirectory = tree.workingDirectory
  held : ∀ location, Option.Rel Entry.Alike (tree.get? location) (other.get? location)

namespace SameKinds

variable {tree other : FileTree}

theorem refl (tree : FileTree) : SameKinds tree tree where
  workingDirectory := rfl
  held location := by
    cases tree.get? location with
    | none => exact .none
    | some entry => exact .some (.refl entry)

theorem trans {third : FileTree} (first : SameKinds tree other) (second : SameKinds other third) :
    SameKinds tree third where
  workingDirectory := second.workingDirectory.trans first.workingDirectory
  held location := by
    have one := first.held location
    have two := second.held location
    generalize tree.get? location = left at one
    generalize other.get? location = middle at one two
    generalize third.get? location = right at two
    cases one with
    | none =>
        cases two
        exact .none
    | some alike =>
        cases two with
        | some further => exact .some (alike.trans further)

theorem way_eq (same : SameKinds tree other) (location : Location) :
    other.way location = tree.way location := by
  have kind := same.held location
  rw [way, way]
  generalize tree.get? location = left at kind
  generalize other.get? location = right at kind
  cases kind with
  | none => rfl
  | some alike => cases alike <;> rfl

/-- Where there is a file in one tree there is one in the other. -/
theorem exists_file (same : SameKinds tree other) {location : Location} {content : ByteArray}
    {time : Int} (held : tree.get? location = some (.file content time)) :
    ∃ otherContent otherTime, other.get? location = some (.file otherContent otherTime) := by
  have kind := same.held location
  rw [held] at kind
  generalize other.get? location = found at kind
  cases kind with
  | some alike =>
      cases alike
      exact ⟨_, _, rfl⟩

/-! ## Single changes -/

section Changes

variable (same : SameKinds tree other) {entry otherEntry : Entry} (location : Location)
include same

theorem put (alike : entry.Alike otherEntry) :
    SameKinds (tree.put location entry) (other.put location otherEntry) where
  workingDirectory := same.workingDirectory
  held place := by
    by_cases here : place = location
    · subst here
      by_cases root : place = []
      · subst root
        exact .some (.directory _ _)
      · rw [get?_put_self tree _ _ root, get?_put_self other _ _ root]
        exact .some alike
    · rw [get?_put_other tree _ here, get?_put_other other _ here]
      exact same.held place

theorem renewAround : SameKinds (tree.renewAround location) (other.renewAround location) := by
  have rel := same.held location.dropLast
  unfold FileTree.renewAround
  generalize location.dropLast = around at rel
  cases around with
  | nil => exact same
  | cons name rest =>
      cases found : tree.get? (name :: rest) <;> cases otherFound : other.get? (name :: rest) <;>
        rw [found, otherFound] at rel <;> cases rel
      · exact same
      · rename_i alike
        cases alike with
        | directory => exact same.put _ (.directory _ _)
        | file | link | fullDevice => exact same

theorem enter (alike : entry.Alike otherEntry) :
    SameKinds (tree.enter location entry) (other.enter location otherEntry) :=
  (same.put location alike).renewAround location

theorem erase : SameKinds (tree.erase location) (other.erase location) where
  workingDirectory := same.workingDirectory
  held place := by
    by_cases root : place = []
    · subst root
      exact .some (.directory _ _)
    · rw [get?_erase tree location root, get?_erase other location root]
      split
      · exact .none
      · exact same.held place

end Changes

/-! ## Following paths -/

section Following

variable (same : SameKinds tree other)
include same

theorem walkOn {last : LastName}
    {follow otherFollow : Location → String → List String → Except FileError Place}
    (further : ∀ around target rest,
      Ends Place.Alike (follow around target rest) (otherFollow around target rest))
    (here : Location) (remaining : List String) :
    Ends Place.Alike (tree.walkOn last follow here remaining)
      (other.walkOn last otherFollow here remaining) := by
  induction remaining generalizing here with
  | nil => exact .ok (.present here (.directory _ _))
  | cons step rest inductionHypothesis =>
      rw [FileTree.walkOn, FileTree.walkOn]
      split
      · exact inductionHypothesis here
      split
      · exact inductionHypothesis here.dropLast
      split
      · exact .error _
      split
      · exact .error _
      · have rel := same.held (here ++ [step])
        simp only
        cases found : tree.get? (here ++ [step]) <;>
          cases otherFound : other.get? (here ++ [step]) <;>
          rw [found, otherFound] at rel <;> cases rel
        · simp only
          split
          · exact .ok (.absent _)
          · exact .error _
        · rename_i alike
          cases alike with
          | directory => exact inductionHypothesis _
          | link target =>
              simp only
              split
              · exact .ok (.present _ (.link target))
              · exact further here target rest
          | file content time otherContent otherTime =>
              simp only
              split
              · exact .ok (.present _ (.file content time otherContent otherTime))
              · exact .error _
          | fullDevice =>
              simp only
              split
              · exact .ok (.present _ .fullDevice)
              · exact .error _

theorem walk (links : Nat) (last : LastName) (here : Location) (remaining : List String) :
    Ends Place.Alike (tree.walk links last here remaining)
      (other.walk links last here remaining) := by
  induction links generalizing here remaining with
  | zero => exact same.walkOn (fun _ _ _ => .error _) here remaining
  | succ fewer inductionHypothesis =>
      exact same.walkOn (fun around target rest => inductionHypothesis _ _) here remaining

theorem resolve (last : LastName) (path : Path) :
    Ends Place.Alike (tree.resolve last path) (other.resolve last path) := by
  rw [FileTree.resolve, FileTree.resolve, same.workingDirectory]
  split
  · exact .error _
  · exact same.walk _ _ _ _

theorem isDirectory_eq (path : Path) : other.isDirectory path = tree.isDirectory path := by
  rw [FileTree.isDirectory, FileTree.isDirectory, FileTree.find, FileTree.find]
  cases found : tree.resolve .followed path <;> cases otherFound : other.resolve .followed path <;>
    have ends := same.resolve .followed path <;> rw [found, otherFound] at ends <;> cases ends
  · rfl
  · rename_i alike
    cases alike with
    | absent => rfl
    | present location alike => cases alike <;> rfl

/-- What a path leads to in one tree it leads to in the other. -/
theorem find_eq_ok {path : Path} {location : Location} {entry : Entry}
    (found : other.find path = .ok (location, entry)) :
    ∃ former, tree.find path = .ok (location, former) := by
  have ends := same.resolve .followed path
  rw [find_eq_ok_iff.mp found] at ends
  generalize led : tree.resolve .followed path = left at ends
  cases ends with
  | ok alike =>
      cases alike with
      | present => exact ⟨_, find_eq_ok_iff.mpr led⟩

end Following

/-! ## Operations -/

section Operations

variable (same : SameKinds tree other)
include same

theorem makeDirectory (path : Path) :
    Ends SameKinds (tree.makeDirectory path) (other.makeDirectory path) := by
  rw [FileTree.makeDirectory, FileTree.makeDirectory]
  refine (same.resolve _ _).bind fun place otherPlace alike => ?_
  cases alike with
  | present => exact .error _
  | absent location => exact .ok (same.enter location (.directory _ _))

theorem ensureDirectory (path : Path) :
    Ends SameKinds (tree.ensureDirectory path) (other.ensureDirectory path) := by
  have made := same.makeDirectory path
  unfold FileTree.ensureDirectory
  rw [same.isDirectory_eq path]
  generalize tree.makeDirectory path = result at made
  generalize other.makeDirectory path = otherResult at made
  cases made with
  | ok same => exact .ok same
  | error failure =>
      cases failure
      case alreadyExists =>
        simp only
        split
        · exact .ok same
        · exact .error _
      all_goals exact .error _

theorem missingDirectories_eq (paths : List Path) :
    other.missingDirectories paths = tree.missingDirectories paths := by
  induction paths with
  | nil => rfl
  | cons path outer inductionHypothesis =>
      have made := same.makeDirectory path
      rw [FileTree.missingDirectories, FileTree.missingDirectories, inductionHypothesis,
        same.isDirectory_eq path]
      split
      · rfl
      · generalize tree.makeDirectory path = result at made
        generalize other.makeDirectory path = otherResult at made
        cases made with
        | ok => rfl
        | error failure => cases failure <;> rfl

theorem ensureDirectories (paths : List Path) :
    (other.ensureDirectories paths).1 = (tree.ensureDirectories paths).1 ∧
      SameKinds (tree.ensureDirectories paths).2 (other.ensureDirectories paths).2 := by
  induction paths generalizing tree other with
  | nil => exact ⟨rfl, same⟩
  | cons path rest inductionHypothesis =>
      have ensured := same.ensureDirectory path
      unfold FileTree.ensureDirectories
      generalize tree.ensureDirectory path = result at ensured
      generalize other.ensureDirectory path = otherResult at ensured
      cases ensured with
      | error failure => exact ⟨rfl, same⟩
      | ok next => exact inductionHypothesis next

/-- Directories can be made in both trees or in none. -/
theorem makeDirectories (path : Path) :
    (other.makeDirectories path).1 = (tree.makeDirectories path).1 ∧
      SameKinds (tree.makeDirectories path).2 (other.makeDirectories path).2 := by
  rw [FileTree.makeDirectories, FileTree.makeDirectories, same.missingDirectories_eq]
  split
  · exact same.ensureDirectories _
  · exact ⟨rfl, same⟩

/-- Bytes can be written in both trees or in none, whatever bytes they are. -/
theorem write (path : Path) {content otherContent : ByteArray} (nonempty : content.isEmpty = false)
    (otherNonempty : otherContent.isEmpty = false) :
    Ends SameKinds (tree.write path content) (other.write path otherContent) := by
  have placed : Ends Place.Alike (tree.placeToWrite path) (other.placeToWrite path) := by
    rw [placeToWrite, placeToWrite]
    refine (same.resolve _ _).bind fun place otherPlace alike => ?_
    cases alike with
    | absent location => exact .ok (.absent location)
    | present location alike =>
        cases alike with
        | directory => exact .error _
        | file | link | fullDevice => exact .ok (.present location (by constructor))
  rw [FileTree.write, FileTree.write]
  refine placed.bind fun place otherPlace alike => ?_
  cases alike with
  | absent location => exact .ok (same.enter location (.file _ _ _ _))
  | present location alike =>
      cases alike with
      | fullDevice =>
          simp only [nonempty, otherNonempty]
          exact .error _
      | directory | file | link => exact .ok (same.put location (.file _ _ _ _))

/-- A file can be renamed in both trees or in none. -/
theorem rename (source target : Path) :
    Ends SameKinds (tree.rename source target) (other.rename source target) := by
  rw [FileTree.rename, FileTree.rename]
  refine (same.resolve _ _).bind fun place otherPlace alike => ?_
  cases alike with
  | absent => exact .error _
  | @present origin entry otherEntry entries =>
      simp only
      refine (same.resolve _ _).bind fun goal otherGoal alike => ?_
      split
      · exact .error _
      split
      · exact .error _
      · have moved (location : Location) : Ends SameKinds
            (if location = origin then .ok tree else
              .ok (((tree.erase origin).renewAround origin).enter location entry))
            (if location = origin then .ok other else
              .ok (((other.erase origin).renewAround origin).enter location otherEntry)) := by
          split
          · exact .ok same
          · exact .ok (((same.erase origin).renewAround origin).enter location entries)
        cases alike with
        | absent location => exact moved location
        | present location alike =>
            cases alike with
            | directory => exact .error _
            | file | link | fullDevice => exact moved location

end Operations

end SameKinds

/-- Adding bytes to a file changes the kind of nothing. -/
theorem Sound.sameKinds_append {tree after : FileTree} {path : Path} {content : ByteArray}
    (sound : tree.Sound) (longer : tree.append path content = .ok after) : SameKinds tree after := by
  simp only [append] at longer
  cases found : tree.find path with
  | error failure =>
      rw [found] at longer
      cases longer
  | ok result =>
      rcases result with ⟨location, entry⟩
      rw [found] at longer
      cases entry with
      | directory | link | fullDevice => cases longer
      | file held time =>
          cases longer
          have kept : tree.get? location = some (.file held time) :=
            (sound.resolve_holds (find_eq_ok_iff.mp found)).2 Way.noConfusion
          refine ⟨rfl, fun other => ?_⟩
          by_cases here : other = location
          · subst here
            have inside : other ≠ [] := by
              rintro rfl
              cases kept
            rw [get?_put_self tree _ _ inside, kept]
            exact .some (.file _ _ _ _)
          · rw [get?_put_other tree _ here]
            exact (SameKinds.refl tree).held other

end FileTree

end SourceHarvest
