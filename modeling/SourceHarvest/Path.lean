import SourceHarvest.Text.Case
import SourceHarvest.Text.Split

/-!
# Path texts

A path is kept as it was written.  Its names are the parts between the slashes,
without empty ones and without single dots; only a dot that opens a relative path
counts.  Two paths are compared by their names, so `a//b/.` and `a/b` are the same
path written twice.  Double dots are names here; only a file tree resolves them.
-/

namespace SourceHarvest

/-- The text of a path. -/
structure Path where
  text : String
deriving DecidableEq, Repr, Inhabited

namespace Path

/-- The path starts at the root of the file tree. -/
def isAbsolute (path : Path) : Bool :=
  path.text.toList.head? == some '/'

/-- The parts between slashes, after the slash that makes a path absolute. -/
def parts (path : Path) : List (List Char) :=
  match path.text.toList with
  | '/' :: rest => Text.splitAtMark '/' rest
  | text => Text.splitAtMark '/' text

/-- A part that names nothing. -/
def isVoid (part : List Char) : Bool :=
  part == [] || part == ['.']

/-- Whether each part counts as a name. -/
def markedParts (path : Path) : List (List Char × Bool) :=
  match path.parts with
  | [] => []
  | first :: rest =>
      (first, if path.isAbsolute then !isVoid first else first != []) ::
        rest.map fun part => (part, !isVoid part)

/-- The names of a path, outermost first. -/
def names (path : Path) : List String :=
  (path.markedParts.filter (·.2)).map fun part => String.ofList part.1

/-- Drop parts at the end that name nothing. -/
def dropVoidEnd (marked : List (List Char × Bool)) : List (List Char × Bool) :=
  (marked.reverse.dropWhile fun part => !part.2).reverse

/-- The text of parts, after the slash of an absolute path. -/
def ofMarked (absolute : Bool) (marked : List (List Char × Bool)) : Path :=
  ⟨String.ofList ((if absolute then ['/'] else []) ++ Text.joinWithMark '/' (marked.map (·.1)))⟩

/-- The path up to its last name; a path without names has none. -/
def parent? (path : Path) : Option Path :=
  match dropVoidEnd path.markedParts with
  | [] => none
  | marked => some (ofMarked path.isAbsolute (dropVoidEnd marked.dropLast))

/-- The last name, unless it is made of dots that point elsewhere. -/
def fileName? (path : Path) : Option String :=
  match path.names.getLast? with
  | some name => if name = ".." ∨ name = "." then none else some name
  | none => none

/-- A file name cut at its last dot, unless only the start of the name stands before it. -/
def cutAtDot (name : List Char) : List Char × Option (List Char) :=
  let suffix := (name.reverse.takeWhile (· != '.')).reverse
  let stem := name.take (name.length - suffix.length - 1)
  if suffix.length < name.length ∧ stem ≠ [] then (stem, some suffix) else (name, none)

/-- The part of the file name after its last dot. -/
def extension? (path : Path) : Option String :=
  path.fileName?.bind fun name => (cutAtDot name.toList).2.map String.ofList

/-- An extension as it is compared: without dots in front and in lowercase. -/
def plainExtension (extension : String) : String :=
  Text.lowercase (String.ofList (extension.toList.dropWhile (· == '.')))

/-- The path without as many characters at its end as its extension has. -/
def withoutExtension (path : Path) : Path :=
  let length := ((path.extension?.map String.toList).getD []).length
  ⟨String.ofList (path.text.toList.take (path.text.toList.length - length))⟩

/-- The path with another extension in place of the present one, which is cut off first.  What
is then left of a path may have no file name, and stays as it is. -/
def withExtension (path : Path) (extension : String) : Path :=
  let cut := path.withoutExtension
  match cut.fileName? with
  | none => cut
  | some name =>
      let stem := (cutAtDot name.toList).1
      let before := (dropVoidEnd cut.markedParts).dropLast
      ofMarked cut.isAbsolute (before ++ [(stem ++ '.' :: extension.toList, true)])

/-- A path followed from another one; an absolute path is the same from anywhere. -/
def join (base path : Path) : Path :=
  if path.isAbsolute then path
  else if base.text.isEmpty ∨ base.text.toList.getLast? = some '/' then ⟨base.text ++ path.text⟩
  else ⟨base.text ++ "/" ++ path.text⟩

/-- Take names off the front of parts, together with what names nothing before them. -/
def dropNames? : List String → List (List Char × Bool) → Option (List (List Char × Bool))
  | [], marked => some marked
  | _ :: _, [] => none
  | name :: names, (part, isName) :: rest =>
      if isName then
        if String.ofList part = name then dropNames? names rest else none
      else dropNames? (name :: names) rest

/-- What is left of a path below another one, written as it was. -/
def below? (base path : Path) : Option Path :=
  if base.isAbsolute = path.isAbsolute then
    (dropNames? base.names path.markedParts).map fun marked =>
      ofMarked false (dropVoidEnd (marked.dropWhile fun part => !part.2))
  else none

/-- The absolute path with given names. -/
def ofNames (names : List String) : Path :=
  ⟨"/" ++ "/".intercalate names⟩

/-- The path and all the paths around it, innermost first. -/
def ancestors (path : Path) : List Path :=
  let marked := dropVoidEnd path.markedParts
  let outer := (List.range marked.length).reverse.filterMap fun count =>
    if (marked[count]?.map (·.2)).getD false
    then some (ofMarked path.isAbsolute (dropVoidEnd (marked.take count))) else none
  path :: outer

/-- The order of paths by their names. -/
def before (left right : Path) : Bool :=
  decide (left.names < right.names)

end Path

end SourceHarvest
