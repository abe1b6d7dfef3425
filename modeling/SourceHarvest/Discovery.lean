import SourceHarvest.Failure.Basic
import SourceHarvest.FileTree.Operations
import SourceHarvest.Ignore.Scope

/-!
# Discovery of source files

Discovery walks a directory down to a greatest depth.  It enters directories that no
rule rejects and whose names are not excluded, never follows links, and collects the
files with one of the wanted extensions in the order of their names.
-/

namespace SourceHarvest

/-- Which files are wanted below a root. -/
structure Discovery where
  extensions : List String
  excludedNames : List String
  greatestDepth : Nat
  /-- A file with rules for all work trees. -/
  personalFile : Option Path
deriving Repr

namespace Discovery

/-- The file name has a wanted extension. -/
def wantsName (discovery : Discovery) (name : String) : Bool :=
  match Path.extension? ⟨name⟩ with
  | some extension =>
      (discovery.extensions.map Path.plainExtension).contains (Text.lowercase extension)
  | none => false

/-- The files wanted below a directory whose entries may lie at most `depth` deep, with the
rules of a person and the scopes in force in it. -/
def collect (discovery : Discovery) (tree : FileTree) (personal : Ignore.PersonalRules) :
    Nat → List Ignore.Scope → Location → List Location
  | 0, _, _ => []
  | depth + 1, scopes, here =>
      (tree.children here).flatMap fun name =>
        let there := here ++ [name]
        match tree.get? there with
        | some (.directory _) =>
            if Ignore.Scope.admits personal scopes there true &&
                !discovery.excludedNames.contains name then
              discovery.collect tree personal depth
                (Ignore.Scope.ofDirectory tree there :: scopes) there
            else []
        | some (.file ..) =>
            if Ignore.Scope.admits personal scopes there false && discovery.wantsName name then
              [there]
            else []
        | _ => []

/-- Paths by their names, in ascending order. -/
def inOrder (paths : List Path) : List Path :=
  paths.mergeSort fun left right => !right.before left

/-- The wanted files below a root, as absolute paths in order. -/
def run (discovery : Discovery) (tree : FileTree) (root : Path) : Except Failure (List Path) :=
  match tree.find root with
  | .ok (location, .directory _) =>
      let personal := Ignore.PersonalRules.load tree discovery.personalFile
      let found := discovery.collect tree personal discovery.greatestDepth
        (Ignore.Scope.around tree location) location
      .ok (inOrder (found.map Path.ofNames))
  | _ => .error (Failure.ofMessage s!"Path is not a directory: {root.text}")

end Discovery

end SourceHarvest
