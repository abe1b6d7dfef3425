import SourceHarvest.FileTree.Resolve

/-!
# Operations on file trees

Reading and looking leave the tree alone.  Most other operations give a new tree, or a
failure and no tree: what fails changes nothing.  An operation on several entries gives
the tree that it leaves behind with its failure.
-/

namespace SourceHarvest.FileTree

/-- The time at which what a path leads to was last changed; devices count as changed at the
present. -/
def modified (tree : FileTree) (path : Path) : Except FileError Int := do
  match ← tree.find path with
  | (_, .file _ time) => pure time
  | (_, .directory time) => pure time
  | _ => pure tree.clock

/-- The bytes of the file at a path. -/
def read (tree : FileTree) (path : Path) : Except FileError ByteArray := do
  match ← tree.find path with
  | (_, .file content _) => pure content
  | (_, .directory _) => throw .isDirectory
  | _ => throw .noSpace

/-- The text of the file at a path. -/
def readText (tree : FileTree) (path : Path) : Except FileError String := do
  match String.fromUTF8? (← tree.read path) with
  | some text => pure text
  | none => throw .notText

/-- The place that writing at a path fills.  A directory takes no bytes. -/
def placeToWrite (tree : FileTree) (path : Path) : Except FileError Place := do
  match ← tree.resolve .filled path with
  | .present _ (.directory _) => throw .isDirectory
  | place => pure place

/-- Give the file at a path new bytes; make the file if its name is free. -/
def write (tree : FileTree) (path : Path) (content : ByteArray) : Except FileError FileTree := do
  match ← tree.placeToWrite path with
  | .present _ .fullDevice => if content.isEmpty then pure tree else throw .noSpace
  | .present location _ => pure (tree.put location (.file content tree.clock))
  | .absent location => pure (tree.enter location (.file content tree.clock))

/-- Make sure that a path leads to a file that takes bytes at its end. -/
def openToAppend (tree : FileTree) (path : Path) : Except FileError FileTree := do
  match ← tree.placeToWrite path with
  | .present _ _ => pure tree
  | .absent location => pure (tree.enter location (.file .empty tree.clock))

/-- Add bytes at the end of the file at a path. -/
def append (tree : FileTree) (path : Path) (content : ByteArray) : Except FileError FileTree := do
  match ← tree.find path with
  | (location, .file held _) => pure (tree.put location (.file (held ++ content) tree.clock))
  | (_, .directory _) => throw .isDirectory
  | _ => throw .noSpace

/-- A path without slashes at its end, unless it has nothing else. -/
def withoutFinalSlashes (path : Path) : Path :=
  match (path.text.toList.reverse.dropWhile (· == '/')).reverse with
  | [] => path
  | bare => ⟨String.ofList bare⟩

/-- Make a directory at a free name. -/
def makeDirectory (tree : FileTree) (path : Path) : Except FileError FileTree := do
  match ← tree.resolve .itself (withoutFinalSlashes path) with
  | .present .. => throw .alreadyExists
  | .absent location => pure (tree.enter location (.directory tree.clock))

/-- Make one directory of several; one that is there already is left as it is. -/
def ensureDirectory (tree : FileTree) (path : Path) : Except FileError FileTree :=
  match tree.makeDirectory path with
  | .error .alreadyExists =>
      if tree.isDirectory path then .ok tree else .error .alreadyExists
  | result => result

/-- Paths from the given one outwards, innermost first, up to the first whose surroundings exist. -/
def missingDirectories (tree : FileTree) : List Path → Except FileError (List Path)
  | [] => .ok []
  | path :: outer =>
      if path.text = "" then .ok []
      else
        match tree.makeDirectory path with
        | .ok _ => .ok [path]
        | .error .notFound => (tree.missingDirectories outer).map (path :: ·)
        | .error .alreadyExists =>
            if tree.isDirectory path then .ok [] else .error .alreadyExists
        | .error failure => .error failure

/-- Make directories one after the other up to the first that cannot be made. -/
def ensureDirectories (tree : FileTree) : List Path → Except FileError Unit × FileTree
  | [] => (.ok (), tree)
  | path :: rest =>
      match tree.ensureDirectory path with
      | .ok next => next.ensureDirectories rest
      | .error failure => (.error failure, tree)

/-- Make a directory together with the directories around it.  Also give the tree that is
left behind, whether or not that succeeds. -/
def makeDirectories (tree : FileTree) (path : Path) : Except FileError Unit × FileTree :=
  match tree.missingDirectories path.ancestors with
  | .ok missing => tree.ensureDirectories missing.reverse
  | .error failure => (.error failure, tree)

/-- Move the file at one path to another path, in place of a file that is there.  The target
ends in a name of its own, and no slash behind it asks for a directory. -/
def rename (tree : FileTree) (source target : Path) : Except FileError FileTree := do
  match ← tree.resolve .itself source with
  | .absent _ => throw .notFound
  | .present location entry =>
      let bare := withoutFinalSlashes target
      let place ← tree.resolve .itself bare
      if ((steps bare).getLast?.all fun step => step = "." || step = "..") then throw .busy
      else if bare ≠ target then throw .notDirectory
      else
        match place with
        | .present _ (.directory _) => throw .isDirectory
        | _ =>
            if place.location = location then pure tree
            else pure (((tree.erase location).renewAround location).enter place.location entry)

/-- The directory that can be removed under a path.  A slash behind the name of a link does not
reach the directory that the link leads to. -/
def removableDirectory (tree : FileTree) (path : Path) : Except FileError Location := do
  let bare := withoutFinalSlashes path
  let place ← tree.resolve .itself bare
  let last := ((steps bare).getLast?).getD ""
  if last = "" then throw .busy
  else if last = "." then throw .invalid
  else if last = ".." then throw .notEmpty
  else
    match place with
    | .present location (.directory _) => pure location
    | .present .. => throw .notDirectory
    | .absent _ => throw .notFound

/-- Remove the file, the link or the whole directory at a path.  What is in a directory goes
first, and is gone even where the directory itself stays.  Also give the tree that is left
behind, whether or not that succeeds. -/
def remove (tree : FileTree) (path : Path) : Except FileError Unit × FileTree :=
  match tree.resolve .itself path with
  | .error failure => (.error failure, tree)
  | .ok (.absent _) => (.error .notFound, tree)
  | .ok (.present location (.directory _)) =>
      let emptied := tree.clear location
      match emptied.removableDirectory path with
      | .ok found => (.ok (), (emptied.erase found).renewAround found)
      | .error failure => (.error failure, emptied)
  | .ok (.present location _) => (.ok (), (tree.erase location).renewAround location)

/-- Make a link at a free name, with no slash behind it.  Its target need not exist, but has
to be a path. -/
def makeLink (tree : FileTree) (path : Path) (target : String) : Except FileError FileTree := do
  if let some refusal := refusal? target then throw refusal
  let bare := withoutFinalSlashes path
  match ← tree.resolve .itself bare with
  | .present .. => throw .alreadyExists
  | .absent location =>
      if bare ≠ path then throw .notFound
      else pure (tree.enter location (.link target))

/-- Give the file or the directory at a path another time. -/
def setModified (tree : FileTree) (path : Path) (time : Int) : Except FileError FileTree := do
  match ← tree.find path with
  | (location, .file content _) => pure (tree.put location (.file content time))
  | (location, .directory _) => pure (tree.put location (.directory time))
  | _ => pure tree

end SourceHarvest.FileTree
