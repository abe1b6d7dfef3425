import SourceHarvest.FileTree.Basic

/-!
# Resolving paths

A path is followed name by name from the root or from the working directory.
Links are followed where they stand, at most forty of them; what becomes of the last
name depends on its use.  A slash at the end of a path is a step to the directory
itself, so it asks for a directory.
-/

namespace SourceHarvest.FileTree

/-- How many links are followed on one way. -/
def greatestLinkCount : Nat := 40

/-- How many bytes a name can have. -/
def greatestNameSize : Nat := 255

/-- How many bytes a path can have. -/
def greatestPathSize : Nat := 4095

/-- Why a text cannot be followed as a path, whatever the tree holds.  An empty text leads
nowhere. -/
def refusal? (text : String) : Option FileError :=
  if text.toList.contains '\x00' then some .zeroInName
  else if text = "" then some .notFound
  else if greatestPathSize < text.utf8ByteSize then some .nameTooLong
  else none

/-- Where a path leads: to an entry, or to a free name in a directory. -/
inductive Place where
  | present (location : Location) (entry : Entry)
  | absent (location : Location)
deriving DecidableEq

/-- The location of a place. -/
def Place.location : Place → Location
  | present location _ => location
  | absent location => location

/-- What is done with the last name of a path. -/
inductive LastName where
  /-- It is looked up, over the link that it may be. -/
  | followed
  /-- It stands for itself, even if it is a link. -/
  | itself
  /-- It is filled with a file, over the link that it may be; a slash behind it is refused. -/
  | filled
deriving DecidableEq, Repr

/-- The steps of a path: its parts without empty ones, and an empty one for a slash at the end. -/
def steps (path : Path) : List String :=
  let parts := (Text.splitAtMark '/' path.text.toList).map String.ofList
  let named := parts.filter (· != "")
  if parts.getLast? = some "" then named ++ [""] else named

/-- Follow steps from a directory up to the first link that is followed, and go over that link:
it stands in a directory, has a target, and has further steps behind it. -/
def walkOn (tree : FileTree) (last : LastName)
    (follow : Location → String → List String → Except FileError Place) (here : Location)
    (remaining : List String) : Except FileError Place :=
  match remaining with
  | [] => .ok (.present here (.directory ((tree.modifiedAt? here).getD tree.clock)))
  | step :: rest =>
      if step = "." ∨ step = "" then walkOn tree last follow here rest
      else if step = ".." then walkOn tree last follow here.dropLast rest
      else if last = .filled ∧ rest ≠ [] ∧ rest.all (· = "") then .error .isDirectory
      else if greatestNameSize < step.utf8ByteSize then .error .nameTooLong
      else
        let there := here ++ [step]
        match tree.get? there with
        | none => if rest = [] then .ok (.absent there) else .error .notFound
        | some (.directory _) => walkOn tree last follow there rest
        | some (.link target) =>
            if rest = [] ∧ last = .itself then .ok (.present there (.link target))
            else follow here target rest
        | some entry => if rest = [] then .ok (.present there entry) else .error .notDirectory

/-- Follow steps from a directory.  The first argument is how many more links may be
followed, the second what is done with the name at the very end. -/
def walk (tree : FileTree) (links : Nat) (last : LastName) (here : Location)
    (remaining : List String) : Except FileError Place :=
  match links with
  | 0 => tree.walkOn last (fun _ _ _ => .error .tooManyLinks) here remaining
  | fewer + 1 =>
      tree.walkOn last
        (fun around target rest =>
          let start := if Path.isAbsolute ⟨target⟩ then [] else around
          walk tree fewer last start (steps ⟨target⟩ ++ rest))
        here remaining

/-- Where a path leads. -/
def resolve (tree : FileTree) (last : LastName) (path : Path) : Except FileError Place :=
  match refusal? path.text with
  | some refusal => .error refusal
  | none =>
      tree.walk greatestLinkCount last
        (if path.isAbsolute then [] else tree.workingDirectory) (steps path)

/-- The entry that a path leads to. -/
def find (tree : FileTree) (path : Path) : Except FileError (Location × Entry) := do
  match ← tree.resolve .followed path with
  | .present location entry => pure (location, entry)
  | .absent _ => throw .notFound

/-- The path of an entry without dots, links and repeated slashes. -/
def canonicalize (tree : FileTree) (path : Path) : Except FileError Path := do
  let (location, _) ← tree.find path
  pure (Path.ofNames location)

/-- The path leads to an entry. -/
def «exists» (tree : FileTree) (path : Path) : Bool :=
  (tree.find path).toBool

/-- The path leads to a directory. -/
def isDirectory (tree : FileTree) (path : Path) : Bool :=
  match tree.find path with
  | .ok (_, .directory _) => true
  | _ => false

/-- What a canonical path leads to is found under the names of the path. -/
theorem canonicalize_eq_ok {tree : FileTree} {path canonical : Path}
    (resolved : tree.canonicalize path = .ok canonical) :
    ∃ location entry, tree.find path = .ok (location, entry) ∧
      canonical = Path.ofNames location := by
  simp only [canonicalize] at resolved
  cases found : tree.find path with
  | error failure => rw [found] at resolved; cases resolved
  | ok result =>
      rw [found] at resolved
      obtain ⟨location, entry⟩ := result
      cases resolved
      exact ⟨location, entry, rfl, rfl⟩

end SourceHarvest.FileTree
