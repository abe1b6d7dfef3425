import SourceHarvest.Numeric.Binary

/-!
# JSON values

A value is data, free of the way it was written: numbers are exact integers of
64 bits or binary floating-point numbers, texts are sequences of characters, and
the members of an object are kept in a fixed order.
-/

namespace SourceHarvest.Json

open SourceHarvest.Numeric

/-- The greatest natural number of 64 bits. -/
def greatestWord : Nat := 0xFFFFFFFFFFFFFFFF

/-- A number: a natural number, a negative integer given by its magnitude, or a
binary floating-point number together with its format. -/
inductive Number where
  | natural (value : Nat)
  | negative (magnitude : Nat)
  | real (format : Format) (value : Binary)
deriving DecidableEq, Repr

/-- A JSON value. -/
inductive Value where
  | null
  | boolean (value : Bool)
  | number (value : Number)
  | text (value : String)
  | array (items : List Value)
  | object (members : List (String × Value))

namespace Number

/-- The number in a binary format. -/
def toBinary (format : Format) : Number → Binary
  | natural value => format.ofNat value
  | negative magnitude => (format.ofNat magnitude).negate
  | real _ value => value.convert format

/-- The number as an integer, if it is one by its form. -/
def toInt? : Number → Option Int
  | natural value => some value
  | negative magnitude => some (-(magnitude : Int))
  | real .. => none

end Number

namespace Value

/-- A natural number as a value. -/
def ofNat (value : Nat) : Value := number (.natural value)

/-- An integer as a value. -/
def ofInt : Int → Value
  | .ofNat value => number (.natural value)
  | .negSucc value => number (.negative (value + 1))

/-- A text, or null where there is none. -/
def optionalText : Option String → Value
  | some value => text value
  | none => null

/-- A finite number of a format; an infinity has no JSON form and becomes null. -/
def ofBinary (format : Format) (value : Binary) : Value :=
  if value.isInfinite then null else number (.real format value)

/-- The member of an object with a given name. -/
def member? (name : String) : Value → Option Value
  | object members => members.lookup name
  | _ => none

/-- The text that a value is. -/
def text? : Value → Option String
  | text value => some value
  | _ => none

/-- The natural number that a value is. -/
def natural? : Value → Option Nat
  | number (.natural value) => some value
  | _ => none

/-- The elements of a value that is an array. -/
def items? : Value → Option (List Value)
  | array items => some items
  | _ => none

end Value

/-- Put a member into a list ordered by name, in place of one of the same name. -/
def insertMember {α : Type} (name : String) (value : α) : List (String × α) → List (String × α)
  | [] => [(name, value)]
  | (other, held) :: rest =>
      if name < other then (name, value) :: (other, held) :: rest
      else if name = other then (name, value) :: rest
      else (other, held) :: insertMember name value rest

/-- Members ordered by name; of several with one name the last stays. -/
def orderMembers {α : Type} (members : List (String × α)) : List (String × α) :=
  members.foldl (fun ordered pair => insertMember pair.1 pair.2 ordered) []

theorem lookup_insertMember_self {α : Type} (name : String) (value : α)
    (members : List (String × α)) :
    (insertMember name value members).lookup name = some value := by
  induction members with
  | nil => simp [insertMember]
  | cons first rest inductionHypothesis =>
      obtain ⟨other, held⟩ := first
      simp only [insertMember]
      split
      · simp
      · split
        · simp
        · rename_i distinct
          have apart : (name == other) = false := by simpa using distinct
          simp [List.lookup_cons, apart, inductionHypothesis]

end SourceHarvest.Json
