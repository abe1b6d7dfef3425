import SourceHarvest.Json.Token

/-!
# JSON documents

A document is a text taken apart but not yet read as data: numerals keep their
digits, members keep their order and their repetitions, and a quoted text with an
unpaired half of a surrogate pair is present without characters.  So a part that
nobody asks for has to be well formed and nothing more.

The grammar is a machine over tokens.  Its state is what has to come next and
the arrays and objects that are still open, innermost first.
-/

namespace SourceHarvest.Json

/-- A text taken apart by the grammar. -/
inductive Document where
  | null
  | boolean (value : Bool)
  | numeral (value : Numeral)
  | text (value : Option String)
  | array (items : List Document)
  | object (members : List (Option String × Document))

namespace Document

/-- An array or object that is still open.  What it holds so far is kept latest first. -/
inductive Frame where
  | array (items : List Document)
  | object (members : List (Option String × Document)) (name : Option String)

/-- What has to come next, with everything that is still open. -/
inductive State where
  | wantsValue (frames : List Frame)
  | wantsElementOrClose (frames : List Frame)
  | wantsNameOrClose (frames : List Frame)
  | wantsName (members : List (Option String × Document)) (frames : List Frame)
  | wantsColon (members : List (Option String × Document)) (name : Option String) (frames : List Frame)
  | complete (document : Document) (frames : List Frame)

namespace State

/-- A token where a value has to start. -/
def startValue (frames : List Frame) : Token → Option State
  | .null => some (complete .null frames)
  | .boolean value => some (complete (.boolean value) frames)
  | .numeral value => some (complete (.numeral value) frames)
  | .text value => some (complete (.text value) frames)
  | .openArray => some (wantsElementOrClose frames)
  | .openObject => some (wantsNameOrClose frames)
  | _ => none

/-- Take one token. -/
def step : State → Token → Option State
  | wantsValue frames, token => startValue frames token
  | wantsElementOrClose frames, .closeArray => some (complete (.array []) frames)
  | wantsElementOrClose frames, token => startValue (.array [] :: frames) token
  | wantsNameOrClose frames, .closeObject => some (complete (.object []) frames)
  | wantsNameOrClose frames, .text word => some (wantsColon [] word frames)
  | wantsName members frames, .text word => some (wantsColon members word frames)
  | wantsColon members word frames, .colon => some (wantsValue (.object members word :: frames))
  | complete document (.array items :: frames), .comma =>
      some (wantsValue (.array (document :: items) :: frames))
  | complete document (.array items :: frames), .closeArray =>
      some (complete (.array (document :: items).reverse) frames)
  | complete document (.object members word :: frames), .comma =>
      some (wantsName ((word, document) :: members) frames)
  | complete document (.object members word :: frames), .closeObject =>
      some (complete (.object ((word, document) :: members).reverse) frames)
  | _, _ => none

/-- Take all tokens. -/
def run : State → List Token → Option State
  | state, [] => some state
  | state, token :: rest => (state.step token).bind (run · rest)

theorem run_append (state : State) (first second : List Token) :
    state.run (first ++ second) = (state.run first).bind (run · second) := by
  induction first generalizing state with
  | nil => rfl
  | cons token rest inductionHypothesis =>
      simp only [List.cons_append, run]
      cases state.step token with
      | none => rfl
      | some next => exact inductionHypothesis next

end State

/-- The document that a list of tokens makes up, if it is exactly one. -/
def ofTokens? (tokens : List Token) : Option Document :=
  match (State.wantsValue []).run tokens with
  | some (.complete document []) => some document
  | _ => none

/-- Take a text apart. -/
def ofText? (source : String) : Option Document :=
  (tokens? source.toList).bind ofTokens?

/-- Documents are read up to this depth of arrays and objects within each other. -/
def greatestDepth : Nat := 127

mutual

/-- The value that a document stands for, if its arrays and objects lie at most
`depth` deep, all its texts have characters and all its numbers are in range. -/
def value? (depth : Nat) : Document → Option Value
  | .null => some .null
  | .boolean value => some (.boolean value)
  | .numeral value => value.number?.map .number
  | .text value => value.map .text
  | .array items =>
      match depth with
      | 0 => none
      | inner + 1 => (values? inner items).map .array
  | .object members =>
      match depth with
      | 0 => none
      | inner + 1 => (memberValues? inner members).map fun found => .object (orderMembers found)

/-- The values of several documents. -/
def values? (depth : Nat) : List Document → Option (List Value)
  | [] => some []
  | item :: rest => do
      let value ← value? depth item
      let values ← values? depth rest
      pure (value :: values)

/-- The values of several members. -/
def memberValues? (depth : Nat) :
    List (Option String × Document) → Option (List (String × Value))
  | [] => some []
  | (name, document) :: rest => do
      let word ← name
      let value ← value? depth document
      let members ← memberValues? depth rest
      pure ((word, value) :: members)

end

end Document

/-- Read a text as one value. -/
def Value.read? (source : String) : Option Value :=
  (Document.ofText? source).bind (Document.value? Document.greatestDepth)

end SourceHarvest.Json
