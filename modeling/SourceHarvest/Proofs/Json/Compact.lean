import SourceHarvest.Proofs.Json.Reals
import SourceHarvest.Proofs.Json.RoundTrip

/-!
# Compact texts

A value is also written without any blanks: the compact text is the tokens of a document, each
right behind the one before, and it is taken apart into that document.  The document of a number
that is no integer is whatever its text is taken apart into; all other values show themselves, so
a value whose numbers are integers is taken apart into the document that shows it.
-/

namespace SourceHarvest.Json

namespace Token

/-- A row of tokens with nothing between them. -/
inductive SpellsClosely : List Token → List Char → Prop
  | nil : SpellsClosely [] []
  | cons {token : Token} {tokens : List Token} {word rest : List Char} :
      Spells token word → SpellsClosely tokens rest → SpellsClosely (token :: tokens) (word ++ rest)

namespace SpellsClosely

theorem single {token : Token} {word : List Char} (spelled : Spells token word) :
    SpellsClosely [token] word := by
  have row := SpellsClosely.cons spelled .nil
  rwa [List.append_nil] at row

/-- Rows are put behind each other. -/
theorem append {first second : List Token} {source behind : List Char}
    (spelled : SpellsClosely first source) (further : SpellsClosely second behind) :
    SpellsClosely (first ++ second) (source ++ behind) := by
  induction spelled with
  | nil => exact further
  | cons token _ inductionHypothesis =>
      rw [List.append_assoc]
      exact .cons token inductionHypothesis

/-- Tokens may have blanks between them and need not. -/
theorem spellsAll {tokens : List Token} {source : List Char}
    (spelled : SpellsClosely tokens source) : SpellsAll tokens source := by
  induction spelled with
  | nil => exact .nil
  | cons token _ inductionHypothesis => exact .cons token inductionHypothesis

end SpellsClosely

end Token

open Document (itemTokens memberTokens)
open Token (SpellsClosely)

theorem Document.ofText?_of_spells {document : Document} {word : List Char}
    (spelled : SpellsClosely document.tokens word) :
    ofText? (String.ofList word) = some document := by
  rw [ofText?_eq_some_iff, Writes, String.toList_ofList]
  exact spelled.spellsAll

/-! ## Numbers -/

namespace Number

/-- What the text of a number is taken apart into. -/
def shown (number : Number) : Document :=
  (Document.ofText? (String.ofList number.write)).getD .null

theorem shown_of_spells {number : Number} {document : Document}
    (spelled : SpellsClosely document.tokens number.write) : number.shown = document := by
  rw [shown, Document.ofText?_of_spells spelled, Option.getD_some]

theorem shown_of_integral {number : Number} (integral : number.Integral) :
    number.shown = .numeral number.numeral :=
  shown_of_spells (.single (Value.spells_number integral))

/-- The text of every number is a single token: a numeral, or a null for an infinity. -/
theorem spellsClosely_shown (number : Number) :
    SpellsClosely number.shown.tokens number.write := by
  have alone (document : Document) (spelled : SpellsClosely document.tokens number.write) :
      SpellsClosely number.shown.tokens number.write := by
    rwa [shown_of_spells spelled]
  have integer (integral : number.Integral) : SpellsClosely number.shown.tokens number.write :=
    alone (.numeral number.numeral) (.single (Value.spells_number integral))
  cases number with
  | natural value => exact integer rfl
  | negative magnitude => exact integer rfl
  | real format value =>
      cases written : Numeric.decimalText? format value with
      | some text =>
          rcases Numeric.exists_spells_of_decimalText? written with ⟨numeral, spelled⟩
          have word : (real format value).write = text.toList := by
            rw [write, written]
            rfl
          rw [← word] at spelled
          exact alone (.numeral numeral) (.single spelled)
      | none =>
          have word : (real format value).write = ['n', 'u', 'l', 'l'] := by
            rw [write, written]
            rfl
          apply alone .null
          rw [word]
          exact .single .null

end Number

/-! ## Values -/

namespace Value

mutual

/-- What the compact text of a value is taken apart into. -/
def shown : Value → Document
  | null => .null
  | boolean value => .boolean value
  | number value => value.shown
  | text value => .text (some value)
  | array items => .array (shownItems items)
  | object members => .object (shownMembers members)

/-- What the texts of several values are taken apart into. -/
def shownItems : List Value → List Document
  | [] => []
  | item :: rest => shown item :: shownItems rest

/-- What the texts of several members are taken apart into. -/
def shownMembers : List (String × Value) → List (Option String × Document)
  | [] => []
  | (name, value) :: rest => (some name, shown value) :: shownMembers rest

end

theorem shownMembers_eq_map (members : List (String × Value)) :
    shownMembers members = members.map fun member => (some member.1, member.2.shown) := by
  induction members with
  | nil => rfl
  | cons member rest inductionHypothesis => rw [shownMembers, inductionHypothesis, List.map_cons]

mutual

/-- A value whose numbers are integers shows itself. -/
theorem shown_of_integral {value : Value} (integral : value.Integral) :
    value.shown = value.document := by
  cases value with
  | null | boolean | text => rfl
  | number value => exact Number.shown_of_integral integral
  | array items => exact congrArg Document.array (shownItems_of_integral integral)
  | object members => exact congrArg Document.object (shownMembers_of_integral integral)

theorem shownItems_of_integral {items : List Value} (integral : ItemsIntegral items) :
    shownItems items = documents items := by
  match items with
  | [] => rfl
  | item :: rest =>
      exact congrArg₂ List.cons (shown_of_integral integral.1) (shownItems_of_integral integral.2)

theorem shownMembers_of_integral {members : List (String × Value)}
    (integral : MembersIntegral members) : shownMembers members = memberDocuments members := by
  match members with
  | [] => rfl
  | (name, value) :: rest =>
      exact congrArg₂ List.cons (congrArg (some name, ·) (shown_of_integral integral.1))
        (shownMembers_of_integral integral.2)

end

mutual

/-- The compact text of a value spells the tokens of what it is taken apart into. -/
theorem spellsClosely_writeWith (value : Value) :
    SpellsClosely value.shown.tokens (value.writeWith Quoted.write) := by
  cases value with
  | null => exact .single .null
  | boolean value => exact .single (Token.spells_writeBoolean value)
  | number value => exact value.spellsClosely_shown
  | text value => exact .single (Token.spells_write value)
  | array items =>
      exact .cons .openArray ((spellsClosely_writeItems items).append (.single .closeArray))
  | object members =>
      exact .cons .openObject
        ((spellsClosely_writeMembers members).append (.single .closeObject))

/-- Elements spell their tokens, with a comma between one and the next. -/
theorem spellsClosely_writeItems (items : List Value) :
    SpellsClosely ([.comma].intercalate (itemTokens (shownItems items)))
      (writeItems Quoted.write items) := by
  match items with
  | [] => exact .nil
  | [item] =>
      have first := spellsClosely_writeWith item
      simpa [shownItems, itemTokens, writeItems, List.intercalate] using first
  | item :: next :: rest =>
      have first := spellsClosely_writeWith item
      have further := spellsClosely_writeItems (next :: rest)
      have row := first.append (.cons .comma further)
      simpa [shownItems, itemTokens, writeItems, List.intercalate_cons_cons] using row

/-- Members spell their tokens, with a comma between one and the next. -/
theorem spellsClosely_writeMembers (members : List (String × Value)) :
    SpellsClosely ([.comma].intercalate (memberTokens (shownMembers members)))
      (writeMembers Quoted.write members) := by
  match members with
  | [] => exact .nil
  | [(name, value)] =>
      have first := spellsClosely_writeWith value
      have named := SpellsClosely.cons (Token.spells_write name) (.cons .colon first)
      simpa [shownMembers, memberTokens, writeMembers, List.intercalate] using named
  | (name, value) :: next :: rest =>
      have first := spellsClosely_writeWith value
      have named := SpellsClosely.cons (Token.spells_write name) (.cons .colon first)
      have further := spellsClosely_writeMembers (next :: rest)
      have row := named.append (.cons .comma further)
      simpa [shownMembers, memberTokens, writeMembers, List.intercalate_cons_cons] using row

end

/-- The tokens of a document stand closely in the compact text of its value. -/
theorem spellsClosely_compact {value : Value} (integral : value.Integral) :
    SpellsClosely value.document.tokens value.compact.toList := by
  rw [compact, String.toList_ofList, ← shown_of_integral integral]
  exact spellsClosely_writeWith value

end Value

/-- What is written compactly is taken apart again. -/
theorem Document.ofText?_compact_eq_shown (value : Value) :
    Document.ofText? value.compact = some value.shown :=
  Document.ofText?_of_spells value.spellsClosely_writeWith

/-- What is written compactly is taken apart into the document of the value. -/
theorem Document.ofText?_compact {value : Value} (integral : value.Integral) :
    Document.ofText? value.compact = some value.document := by
  rw [ofText?_compact_eq_shown, Value.shown_of_integral integral]

/-- The fields of an object that was written compactly are those that it has. -/
theorem Document.fields?_shown {members : List (String × Value)}
    (distinct : (members.map (·.1)).Nodup) (names : List String) :
    (Value.object members).shown.fields? names =
      some (names.map fun name => (members.lookup name).map Value.shown) := by
  rw [Value.shown, Value.shownMembers_eq_map]
  exact fields?_map Value.shown distinct names

end SourceHarvest.Json
