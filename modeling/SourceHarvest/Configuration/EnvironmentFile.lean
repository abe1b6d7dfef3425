import SourceHarvest.Configuration.Environment
import SourceHarvest.FileTree.Operations
import SourceHarvest.Text.ByteLines
import SourceHarvest.Unicode.Alphanumeric

/-!
# Environment files

A file can set variables, one to a line.  A variable that is set already keeps its
value.  A line that sets nothing and is neither blank nor a comment ends the reading;
what was set before it stays set.  No variable can have a value with a zero character in it,
and a line that would set one is a failure.
-/

namespace SourceHarvest

/-- Variables with their values, each at most once. -/
abbrev Variables := List (String × String)

namespace Variables

/-- What stands behind a name and an equals sign where a variable is written as its name, an
equals sign and its value.  So a name that goes on into a value still finds its rest. -/
def valueBehind? (assigned : Variables) (name : String) : Option String :=
  if name.isEmpty then none
  else
    assigned.findSome? fun (key, value) =>
      let start := name.toList ++ ['=']
      let written := key.toList ++ '=' :: value.toList
      if start.isPrefixOf written then some (String.ofList (written.drop start.length)) else none

end Variables

namespace EnvironmentFile

/-! ### Values -/

/-- The quotes around the current part of a value. -/
inductive Quoting where
  | bare
  | single
  | double
deriving DecidableEq, Repr

/-- The name of a variable that is being read to put its value in. -/
inductive Reference where
  | none
  | plain (latestFirst : List Char)
  | braced (latestFirst : List Char)
deriving DecidableEq, Repr

/-- A value while it is read.  Characters are kept latest first. -/
structure Draft where
  output : List Char
  quoting : Quoting
  reference : Reference
  /-- The character before was a backslash. -/
  escaped : Bool
  /-- The value has ended; only blanks and a comment may follow. -/
  ended : Bool

namespace Draft

/-- Nothing read yet. -/
def empty : Draft := ⟨[], .bare, .none, false, false⟩

/-- One character more. -/
def push (draft : Draft) (c : Char) : Draft :=
  { draft with output := c :: draft.output }

/-- The value of a variable more, whose name has ended. -/
def insert (draft : Draft) (values : String → String) (latestFirst : List Char) : Draft :=
  let value := values (String.ofList latestFirst.reverse)
  { draft with output := value.toList.reverse ++ draft.output, reference := .none }

/-- A character behind a backslash. -/
def afterBackslash? (draft : Draft) (c : Char) : Option Draft :=
  let plain := { draft with escaped := false }
  if ['\\', '\'', '"', '$', ' '].contains c then some (plain.push c)
  else if c = 'n' then some (plain.push '\n')
  else none

/-- A character while the name of a variable is read. -/
def inReference (draft : Draft) (values : String → String) (c : Char) : Draft :=
  match draft.reference with
  | .none => draft
  | .plain name =>
      if Unicode.isAlphanumeric c then { draft with reference := .plain (c :: name) }
      else if c = '\x7b' ∧ name = [] then { draft with reference := .braced [] }
      else
        let inserted := draft.insert values name
        if c = '$' then { inserted with reference := .plain [] } else inserted.push c
  | .braced name =>
      if c = '\x7d' then draft.insert values name
      else { draft with reference := .braced (c :: name) }

/-- A character that is neither escaped nor part of a name. -/
def plainly (draft : Draft) (c : Char) : Draft :=
  if c = '$' then { draft with reference := .plain [] }
  else if c = '\\' then { draft with escaped := true }
  else
    match draft.quoting with
    | .double => if c = '"' then { draft with quoting := .bare } else draft.push c
    | _ =>
        if c = '\'' then { draft with quoting := .single }
        else if c = '"' then { draft with quoting := .double }
        else if c = ' ' ∨ c = '\t' then { draft with ended := true }
        else draft.push c

/-- One character anywhere before the end of the value. -/
def take? (draft : Draft) (values : String → String) (c : Char) : Option Draft :=
  if draft.escaped then draft.afterBackslash? c
  else if draft.quoting = .single then
    some (if c = '\'' then { draft with quoting := .bare } else draft.push c)
  else if draft.reference ≠ .none then some (draft.inReference values c)
  else some (draft.plainly c)

/-- The value, if neither quotes nor braces are open. -/
def finish? (draft : Draft) (values : String → String) : Option String :=
  if draft.quoting ≠ .bare then none
  else
    match draft.reference with
    | .braced _ => none
    | .plain name => some (String.ofList (draft.insert values name).output.reverse)
    | .none => some (String.ofList draft.output.reverse)

end Draft

/-- Read a value, which puts in the values of other variables. -/
def readValue? (values : String → String) (draft : Draft) : List Char → Option String
  | [] => draft.finish? values
  | c :: rest =>
      if draft.ended then
        if c = ' ' ∨ c = '\t' then readValue? values draft rest
        else if c = '#' then draft.finish? values
        else none
      else
        match draft.take? values c with
        | some next => readValue? values next rest
        | none => none

/-! ### Lines -/

/-- Read a name; also give what follows it. -/
def readName? (text : List Char) : Option (String × List Char) :=
  match text with
  | [] => none
  | first :: _ =>
      if first.isAlpha ∨ first = '_' then
        let inName := fun c : Char => c.isAlphanum || c == '_' || c == '.'
        some (String.ofList (text.takeWhile inName), text.dropWhile inName)
      else none

/-- What follows an equals sign. -/
def afterEquals? : List Char → Option (List Char)
  | '=' :: rest => some rest
  | _ => none

/-- What a line says. -/
inductive Line where
  | nothing
  | assignment (name value : String)
  | malformed
deriving DecidableEq, Repr

/-- The name that a line sets, and the text of its value; `export` may stand before it. -/
def readTarget? (text : List Char) : Option (String × List Char) := do
  let (name, afterName) ← readName? text
  let rest := afterName.dropWhile Text.isBlank
  match afterEquals? rest with
  | some value => pure (name, value)
  | none =>
      if name = "export" then
        let (exported, afterExported) ← readName? rest
        let value ← afterEquals? (afterExported.dropWhile Text.isBlank)
        pure (exported, value)
      else none

/-- Read a line. -/
def readLine (values : String → String) (line : List Char) : Line :=
  let text := Text.trimBlanks line
  if text.isEmpty ∨ text.head? = some '#' then .nothing
  else
    match readTarget? text with
    | none => .malformed
    | some (name, valueText) =>
        let body := valueText.dropWhile Text.isBlank
        if body.isEmpty ∨ body.head? = some '#' then .assignment name ""
        else
          match readValue? values .empty body with
          | some value => .assignment name value
          | none => .malformed

/-- The variables that are set, and all that the file said so far. -/
structure Progress where
  assigned : Variables
  said : Variables

/-- The value that is put in for a name. -/
def Progress.value (progress : Progress) (name : String) : String :=
  ((progress.assigned.valueBehind? name).or (progress.said.lookup name)).getD ""

/-- Take an assignment in; a variable that is set keeps its value. -/
def Progress.assign (progress : Progress) (name value : String) : Except Failure Progress :=
  let said := (name, value) :: progress.said
  if (progress.assigned.lookup name).isSome then .ok { progress with said }
  else if value.toList.contains '\x00' then .error ⟨.unsettable name, []⟩
  else .ok { assigned := progress.assigned ++ [(name, value)], said }

/-- Read lines up to the first malformed one; tell whether there was none. -/
def readLines (progress : Progress) :
    List (Option (List Char)) → Except Failure (Bool × Variables)
  | [] => .ok (true, progress.assigned)
  | none :: _ => .ok (false, progress.assigned)
  | some line :: rest =>
      match readLine progress.value line with
      | .nothing => readLines progress rest
      | .assignment name value => do readLines (← progress.assign name value) rest
      | .malformed => .ok (false, progress.assigned)

/-- Set what the file at a path says; tell whether all of it could be read. -/
def load (tree : FileTree) (assigned : Variables) (path : Path) :
    Except Failure (Bool × Variables) :=
  match tree.read path with
  | .ok content => readLines ⟨assigned, []⟩ (Text.linesOf content)
  | .error _ => .ok (false, assigned)

/-! ### Places -/

/-- The directory of the user's settings. -/
def settingsDirectory? (assigned : Variables) : Option Path :=
  match assigned.lookup "XDG_CONFIG_HOME" with
  | some directory => some ⟨directory⟩
  | none => (assigned.lookup "HOME").map fun home => Path.join ⟨home⟩ ⟨".config"⟩

/-- Set what the file in the working directory says; unless all of it could be read, also
what the file among the user's settings says. -/
def loadAll (tree : FileTree) (assigned : Variables) : Except Failure Variables := do
  let (complete, near) ←
    load tree assigned ((Path.ofNames tree.workingDirectory).join ⟨".env"⟩)
  if complete then pure near
  else
    match settingsDirectory? near with
    | some directory =>
        pure (← load tree near ((directory.join ⟨"code-context-ingest"⟩).join ⟨".env"⟩)).2
    | none => pure near

end EnvironmentFile

end SourceHarvest
