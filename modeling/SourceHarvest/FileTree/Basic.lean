import SourceHarvest.Path

/-!
# File trees

A file tree is a finite table from locations to entries.  A location is the list
of names that lead from the root to an entry, so it has neither dots nor links in
it; the root itself is always a directory.  What can go wrong with an operation is
a `FileError`.
-/

namespace SourceHarvest

/-- The names from the root of a file tree to one of its entries. -/
abbrev Location := List String

/-- Why an operation on a file tree fails. -/
inductive FileError where
  | notFound
  | alreadyExists
  | notDirectory
  | isDirectory
  | noSpace
  | tooManyLinks
  | notText
  | beforeEpoch
  | busy
  | nameTooLong
  | zeroInName
  | invalid
  | notEmpty
deriving DecidableEq, Repr

/-- The system's words for a failure. -/
def FileError.message : FileError → String
  | notFound => "No such file or directory (os error 2)"
  | busy => "Device or resource busy (os error 16)"
  | alreadyExists => "File exists (os error 17)"
  | notDirectory => "Not a directory (os error 20)"
  | isDirectory => "Is a directory (os error 21)"
  | invalid => "Invalid argument (os error 22)"
  | noSpace => "No space left on device (os error 28)"
  | nameTooLong => "File name too long (os error 36)"
  | notEmpty => "Directory not empty (os error 39)"
  | tooManyLinks => "Too many levels of symbolic links (os error 40)"
  | notText => "stream did not contain valid UTF-8"
  | beforeEpoch => "second time provided was later than self"
  | zeroInName => "file name contained an unexpected NUL byte"

/-- Contents are the same if their bytes are. -/
instance decidableEqContent : DecidableEq ByteArray := fun left right =>
  decidable_of_iff (left.data = right.data) ByteArray.ext_iff.symm

/-- What a location holds.  Times are milliseconds since 1970 and may lie before it; that of
a directory is when the names in it last changed. -/
inductive Entry where
  | directory (modified : Int)
  | file (content : ByteArray) (modified : Int)
  | link (target : String)
  | fullDevice
deriving DecidableEq

/-- A file tree, the directory that relative paths start from, and the present time, which
whatever is written next gets. -/
structure FileTree where
  entries : List (Location × Entry)
  workingDirectory : Location
  clock : Int

namespace FileTree

/-- What a location holds; the root is a directory. -/
def get? (tree : FileTree) (location : Location) : Option Entry :=
  match location with
  | [] => some (.directory tree.clock)
  | _ => tree.entries.lookup location

/-- When the file or the directory at a location was last changed. -/
def modifiedAt? (tree : FileTree) (location : Location) : Option Int :=
  match tree.get? location with
  | some (.directory time) => some time
  | some (.file _ time) => some time
  | _ => none

/-- Put an entry at a location, in place of what is there. -/
def put (tree : FileTree) (location : Location) (entry : Entry) : FileTree :=
  { tree with
    entries := (location, entry) :: tree.entries.filter fun held => held.1 != location }

/-- Take a location and all that lies below it out of the tree. -/
def erase (tree : FileTree) (location : Location) : FileTree :=
  { tree with entries := tree.entries.filter fun held => !location.isPrefixOf held.1 }

/-- Take all that lies below a location out of the tree. -/
def clear (tree : FileTree) (location : Location) : FileTree :=
  let isBelow := fun other : Location => location.isPrefixOf other && other != location
  if tree.entries.any (isBelow ·.1) then
    let left := { tree with entries := tree.entries.filter fun held => !isBelow held.1 }
    if location = [] then left else left.put location (.directory tree.clock)
  else tree

/-- Names changed in the directory that holds a location. -/
def renewAround (tree : FileTree) (location : Location) : FileTree :=
  match location.dropLast, tree.get? location.dropLast with
  | [], _ => tree
  | around, some (.directory _) => tree.put around (.directory tree.clock)
  | _, _ => tree

/-- Put an entry at a location whose name is free or stands for something else. -/
def enter (tree : FileTree) (location : Location) (entry : Entry) : FileTree :=
  (tree.put location entry).renewAround location

/-- The names of the entries of a directory. -/
def children (tree : FileTree) (location : Location) : List String :=
  tree.entries.filterMap fun held =>
    match held.1.getLast? with
    | some name => if held.1.dropLast = location then some name else none
    | none => none

/-- The directories of a tree that were not there before. -/
def newDirectories (earlier later : FileTree) : List Location :=
  later.entries.filterMap fun held =>
    match held.2, earlier.get? held.1 with
    | .directory _, none => some held.1
    | _, _ => none

/-- The files of a tree whose bytes were not there before. -/
def newContents (earlier later : FileTree) : List (Location × ByteArray) :=
  later.entries.filterMap fun held =>
    match held.2, earlier.get? held.1 with
    | .file content _, some (.file before _) =>
        if content = before then none else some (held.1, content)
    | .file content _, _ => some (held.1, content)
    | _, _ => none

theorem get?_put_self (tree : FileTree) (location : Location) (entry : Entry)
    (nonempty : location ≠ []) : (tree.put location entry).get? location = some entry := by
  cases location with
  | nil => exact absurd rfl nonempty
  | cons name rest => simp [get?, put]

theorem lookup_filter_ne {entries : List (Location × Entry)} {location other : Location}
    (distinct : other ≠ location) :
    (entries.filter fun held => held.1 != location).lookup other = entries.lookup other := by
  induction entries with
  | nil => rfl
  | cons held rest inductionHypothesis =>
      obtain ⟨place, entry⟩ := held
      by_cases same : place = location
      · subst same
        have apart : (other == place) = false := by simpa using distinct
        simp [List.filter, List.lookup_cons, apart, inductionHypothesis]
      · have kept : (place != location) = true := by simpa using same
        simp only [List.filter, kept, List.lookup_cons]
        cases other == place <;> simp [inductionHypothesis]

/-- Other locations keep what they hold. -/
theorem get?_put_other (tree : FileTree) {location other : Location} (entry : Entry)
    (distinct : other ≠ location) :
    (tree.put location entry).get? other = tree.get? other := by
  cases other with
  | nil => rfl
  | cons name rest =>
      have apart : ((name :: rest : Location) == location) = false := by simpa using distinct
      simp only [get?, put, List.lookup_cons, apart]
      exact lookup_filter_ne distinct

end FileTree

end SourceHarvest
