import SourceHarvest.Json.Quoted
import SourceHarvest.Json.Basic
import SourceHarvest.Numeric.Layout

/-!
# Writing JSON

Three forms: compact, compact in ASCII, and spread over lines with two spaces of
indentation.  Members are written in the order in which the value holds them.
-/

namespace SourceHarvest.Json

open SourceHarvest.Numeric

/-- The text of a number.  Infinities do not occur in values that are written. -/
def Number.write : Number → List Char
  | natural value => decimalDigits value
  | negative magnitude => '-' :: decimalDigits magnitude
  | real format value => ((decimalText? format value).getD "null").toList

namespace Value

/-- The text of a truth value. -/
def writeBoolean (value : Bool) : List Char :=
  if value then ['t', 'r', 'u', 'e'] else ['f', 'a', 'l', 's', 'e']

mutual

/-- The compact text of a value, quoted texts being written as given. -/
def writeWith (quote : List Char → List Char) : Value → List Char
  | null => ['n', 'u', 'l', 'l']
  | boolean value => writeBoolean value
  | number value => value.write
  | text value => quote value.toList
  | array items => '[' :: (writeItems quote items ++ [']'])
  | object members => '\x7b' :: (writeMembers quote members ++ ['\x7d'])

/-- The texts of elements, separated by commas. -/
def writeItems (quote : List Char → List Char) : List Value → List Char
  | [] => []
  | [item] => writeWith quote item
  | item :: next :: rest => writeWith quote item ++ ',' :: writeItems quote (next :: rest)

/-- The texts of members, separated by commas. -/
def writeMembers (quote : List Char → List Char) : List (String × Value) → List Char
  | [] => []
  | [(name, value)] => quote name.toList ++ ':' :: writeWith quote value
  | (name, value) :: next :: rest =>
      quote name.toList ++ ':' :: writeWith quote value ++ ',' ::
        writeMembers quote (next :: rest)

end

/-- The compact text of a value. -/
def compact (value : Value) : String :=
  String.ofList (value.writeWith Quoted.write)

/-- The compact text of a value in ASCII. -/
def compactAscii (value : Value) : String :=
  String.ofList (value.writeWith Quoted.writeAscii)

/-- A new line at a level of indentation. -/
def lineAt (level : Nat) : List Char :=
  '\n' :: List.replicate (2 * level) ' '

mutual

/-- The text of a value spread over lines, its first line being at a level. -/
def writeSpread (level : Nat) : Value → List Char
  | array [] => ['[', ']']
  | array (item :: rest) =>
      '[' :: (lineAt (level + 1) ++ writeSpread (level + 1) item ++
        spreadItems (level + 1) rest ++ lineAt level ++ [']'])
  | object [] => ['\x7b', '\x7d']
  | object ((name, value) :: rest) =>
      '\x7b' :: (lineAt (level + 1) ++ Quoted.write name.toList ++
        ':' :: ' ' :: writeSpread (level + 1) value ++
        spreadMembers (level + 1) rest ++ lineAt level ++ ['\x7d'])
  | null => ['n', 'u', 'l', 'l']
  | boolean value => writeBoolean value
  | number value => value.write
  | text value => Quoted.write value.toList

/-- Further elements, each after a comma on a line of its own. -/
def spreadItems (level : Nat) : List Value → List Char
  | [] => []
  | item :: rest => ',' :: lineAt level ++ writeSpread level item ++ spreadItems level rest

/-- Further members, each after a comma on a line of its own. -/
def spreadMembers (level : Nat) : List (String × Value) → List Char
  | [] => []
  | (name, value) :: rest =>
      ',' :: lineAt level ++ Quoted.write name.toList ++ ':' :: ' ' :: writeSpread level value ++
        spreadMembers level rest

end

/-- The text of a value spread over lines. -/
def spread (value : Value) : String :=
  String.ofList (value.writeSpread 0)

end Value

end SourceHarvest.Json
