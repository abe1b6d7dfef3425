import SourceHarvest.Ignore.Personal

/-!
# The rules in force at a place of a file tree

An entry is under the rules of its own directory and of all directories around it,
inner ones first.  Rules of `.ignore` files come before those of `.gitignore` files,
these before `.git/info/exclude`, and these before the rules of a person.  The three
latter count only where a directory around the entry holds a repository, and the files
not beyond the innermost such directory.  An entry about which all rules are silent is
rejected if its name starts with a dot.
-/

namespace SourceHarvest.Ignore

/-- The rules that one directory brings, with its location. -/
structure Scope where
  location : Location
  ignoreRules : List Rule
  gitRules : List Rule
  excludeRules : List Rule
  holdsRepository : Bool

namespace Scope

/-- The first line of the file at a path. -/
def firstLine? (tree : FileTree) (path : Path) : Option String :=
  match tree.read path with
  | .ok content => (RuleFile.readableLines content).head?.map String.ofList
  | .error _ => none

/-- The directory in which a work tree keeps what its branches share.  A `.git` that is a
file points to it over a further file. -/
def gitDirectory? (tree : FileTree) (git : Path) : Option Path :=
  match tree.find git with
  | .ok (_, .file ..) => do
      let line ← firstLine? tree git
      let mark := "gitdir: ".toList
      if mark.isPrefixOf line.toList then do
        let real : Path := ⟨String.ofList (line.toList.drop mark.length)⟩
        let shared ← firstLine? tree (real.join ⟨"commondir"⟩)
        if shared.toList.head? = some '.' then pure (real.join ⟨shared⟩) else pure ⟨shared⟩
      else none
  | _ => some git

/-- The rules that a directory brings. -/
def ofDirectory (tree : FileTree) (location : Location) : Scope :=
  let directory := Path.ofNames location
  let git := directory.join ⟨".git"⟩
  { location
    ignoreRules := RuleFile.load tree (directory.join ⟨".ignore"⟩)
    gitRules := RuleFile.load tree (directory.join ⟨".gitignore"⟩)
    excludeRules :=
      match gitDirectory? tree git with
      | some shared => RuleFile.load tree (shared.join ⟨"info/exclude"⟩)
      | none => []
    holdsRepository := tree.exists git || tree.exists (directory.join ⟨".jj"⟩) }

/-- The scopes of a directory and of all directories around it, innermost first. -/
def around (tree : FileTree) (location : Location) : List Scope :=
  (List.range (location.length + 1)).reverse.map fun length =>
    ofDirectory tree (location.take length)

/-- The bytes of the path of an entry from the directory of a scope. -/
def pathBelow (scope : Scope) (entry : Location) : List UInt8 :=
  ("/".intercalate (entry.drop scope.location.length)).toUTF8.toList

/-- What one kind of rules says about an entry: the innermost scope that speaks decides. -/
def verdictOf (rules : Scope → List Rule) (scopes : List Scope) (entry : Location)
    (isDirectory : Bool) : Verdict :=
  scopes.foldl (fun verdict scope =>
    verdict.orElse (RuleFile.verdict (rules scope) (scope.pathBelow entry) isDirectory)) .silent

/-- The scopes up to and with the innermost one that holds a repository; none if there is
none. -/
def repositoryScopes (scopes : List Scope) : List Scope :=
  if scopes.any (·.holdsRepository) then
    let inner := scopes.takeWhile fun scope => !scope.holdsRepository
    scopes.take (inner.length + 1)
  else []

/-- What all rules in force say about an entry. -/
def verdict (personal : PersonalRules) (scopes : List Scope) (entry : Location)
    (isDirectory : Bool) : Verdict :=
  let near := repositoryScopes scopes
  (verdictOf ignoreRules scopes entry isDirectory).orElse <|
    (verdictOf gitRules near entry isDirectory).orElse <|
      (verdictOf excludeRules near entry isDirectory).orElse <|
        if near.isEmpty then .silent else personal.verdict entry isDirectory

/-- The entry is taken: rules admit it, or they are silent and its name is not hidden. -/
def admits (personal : PersonalRules) (scopes : List Scope) (entry : Location)
    (isDirectory : Bool) : Bool :=
  match verdict personal scopes entry isDirectory with
  | .admitted => true
  | .rejected => false
  | .silent => (entry.getLast?.bind fun name => name.toList.head?) != some '.'

end Scope

end SourceHarvest.Ignore
