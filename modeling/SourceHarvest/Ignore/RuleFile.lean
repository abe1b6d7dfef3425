import SourceHarvest.FileTree.Operations
import SourceHarvest.Ignore.Glob.Matching
import SourceHarvest.Text.Blank
import SourceHarvest.Text.ByteLines

/-!
# Rule files

Every line of a rule file is one rule: a glob pattern with marks around it.  A bang
in front makes the rule let through what it matches, a slash at the end restricts it
to directories, and a slash elsewhere ties it to the directory of the file.  Lines
that start with a hash and lines whose pattern is ill formed are no rules.  Of all
the rules of a file that match a path, the last one decides.  A file with a pattern
that is nested too deep has no rules at all.
-/

namespace SourceHarvest.Ignore

/-- What rules say about a path. -/
inductive Verdict where
  | silent
  | rejected
  | admitted
deriving DecidableEq, Repr

namespace Verdict

/-- The first verdict, unless it is silent. -/
def orElse (first second : Verdict) : Verdict :=
  match first with
  | silent => second
  | _ => first

end Verdict

/-- One rule of a rule file. -/
structure Rule where
  pattern : List GlobToken
  admits : Bool
  directoriesOnly : Bool

namespace Rule

/-- Drop blank characters at the end of a line, unless its last one is an escaped space. -/
def dropBlankEnd (line : List Char) : List Char :=
  if ['\\', ' '].isSuffixOf line then line
  else (line.reverse.dropWhile Text.isBlank).reverse

/-- Take the marks off the front of a line: whether it admits, whether it is tied to the
directory of the file, and the rest of it. -/
def takeFrontMarks (line : List Char) : Bool × Bool × List Char :=
  match line with
  | '\\' :: '!' :: rest => (false, false, '!' :: rest)
  | '\\' :: '#' :: rest => (false, false, '#' :: rest)
  | '!' :: '/' :: rest => (true, true, rest)
  | '!' :: rest => (true, false, rest)
  | '/' :: rest => (false, true, rest)
  | _ => (false, false, line)

/-- Take a slash off the end of a line, with a backslash in front of it. -/
def takeEndMark (line : List Char) : Bool × List Char :=
  match line.reverse with
  | '/' :: '\\' :: rest => (true, rest.reverse)
  | '/' :: rest => (true, rest.reverse)
  | _ => (false, line)

/-- The glob of a line without marks.  One that is not tied to a place matches at any
depth, and one that ends in a slash and two stars does not match the directory itself. -/
def globOf (tied : Bool) (line : List Char) : List Char :=
  let placed :=
    if !tied && !line.contains '/' && line != ['*', '*'] then '*' :: '*' :: '/' :: line else line
  if ['/', '*', '*'].isSuffixOf placed then placed ++ ['/', '*'] else placed

/-- The rule that a line holds. -/
def ofLine? (line : List Char) : Option Rule :=
  if line.head? = some '#' then none
  else
    let line := dropBlankEnd line
    if line.isEmpty then none
    else
      let (admits, tied, unmarked) := takeFrontMarks line
      let (directoriesOnly, body) := takeEndMark unmarked
      (Glob.ofText? (globOf tied body)).map fun pattern => ⟨pattern, admits, directoriesOnly⟩

/-- The pattern of the rule is not nested too deep. -/
def matchable (rule : Rule) : Bool :=
  Glob.nesting rule.pattern ≤ Glob.greatestNesting

/-- The rule speaks about a path below the directory of its file. -/
def speaks (rule : Rule) (path : List UInt8) (isDirectory : Bool) : Bool :=
  (isDirectory || !rule.directoriesOnly) && Glob.accepts rule.pattern path

end Rule

namespace RuleFile

/-- What the rules of a file say about a path below its directory. -/
def verdict (rules : List Rule) (path : List UInt8) (isDirectory : Bool) : Verdict :=
  match rules.reverse.find? (·.speaks path isDirectory) with
  | none => .silent
  | some rule => if rule.admits then .admitted else .rejected

/-- The lines of a file up to the first one that is no text. -/
def readableLines (content : ByteArray) : List (List Char) :=
  ((Text.linesOf content).takeWhile Option.isSome).filterMap id

/-- The lines of a file that can hold rules; byte order marks at its start are no part of its
first line. -/
def ruleLines (content : ByteArray) : List (List Char) :=
  match readableLines content with
  | first :: rest => first.dropWhile (· == '\ufeff') :: rest
  | [] => []

/-- The rules of a file, none if one of them cannot be matched. -/
def rules (content : ByteArray) : List Rule :=
  let found := (ruleLines content).filterMap Rule.ofLine?
  if found.all (·.matchable) then found else []

/-- The rules of the file at a path, none if it cannot be read. -/
def load (tree : FileTree) (path : Path) : List Rule :=
  match tree.read path with
  | .ok content => rules content
  | .error _ => []

end RuleFile

end SourceHarvest.Ignore
