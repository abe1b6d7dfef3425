import SourceHarvest.Json.Document

/-!
# Reading records from documents

A record is an object with known member names, or an array of its fields in
order.  Names that the record does not have are passed over, whatever their
values; a known name given twice, and a required field left out, spoil the
record.  An optional field that is missing or null has no value.
-/

namespace SourceHarvest.Json.Document

/-- The only member with a given name: none if there is no such member, and no
answer if there are several. -/
def onlyMember? (members : List (Option String × Document)) (name : String) :
    Option (Option Document) :=
  match members.filter fun member => member.1 == some name with
  | [] => some none
  | [member] => some (some member.2)
  | _ => none

/-- The fields of a record in the order of their names, absent ones as none. -/
def fields? (names : List String) : Document → Option (List (Option Document))
  | .object members =>
      if members.all fun member => member.1.isSome then names.mapM (onlyMember? members) else none
  | .array items => if items.length = names.length then some (items.map some) else none
  | _ => none

/-- The members of an object whose names are arbitrary; the last of one name stays. -/
def mapOf? {α : Type} (read : Document → Option α) : Document → Option (List (String × α))
  | .object members => do
      let entries ← members.mapM fun member => do
        let name ← member.1
        let value ← read member.2
        pure (name, value)
      pure (orderMembers entries)
  | _ => none

/-- The elements of an array. -/
def listOf? {α : Type} (read : Document → Option α) : Document → Option (List α)
  | .array items => items.mapM read
  | _ => none

/-- A field that may be missing or null. -/
def optional? {α : Type} (read : Document → Option α) : Option Document → Option (Option α)
  | none => some none
  | some .null => some none
  | some document => (read document).map some

/-- The text that a document is. -/
def text? : Document → Option String
  | .text value => value
  | _ => none

/-- The truth value that a document is. -/
def boolean? : Document → Option Bool
  | .boolean value => some value
  | _ => none

/-- The natural number that a document is, up to a bound. -/
def natural? (bound : Nat) : Document → Option Nat
  | .numeral value =>
      match value.number? with
      | some (.natural found) => if found ≤ bound then some found else none
      | _ => none
  | _ => none

/-- The signed integer of 64 bits that a document is. -/
def integer? : Document → Option Int
  | .numeral value =>
      match value.number? with
      | some (.natural found) => if found < 0x8000000000000000 then some found else none
      | some (.negative magnitude) => some (-(magnitude : Int))
      | _ => none
  | _ => none

/-- The number that a document is, in a binary format. -/
def binary? (format : Numeric.Format) : Document → Option Numeric.Binary
  | .numeral value => value.number?.map (Number.toBinary format)
  | _ => none

/-- The name of a case without data: a text, or an object of that one name with a null. -/
def caseName? : Document → Option String
  | .text value => value
  | .object [(name, .null)] => name
  | _ => none

end SourceHarvest.Json.Document
