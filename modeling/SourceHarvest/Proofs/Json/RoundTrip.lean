import SourceHarvest.Proofs.Json.Grammar
import SourceHarvest.Proofs.Json.Records
import SourceHarvest.Proofs.Json.Tokens

/-!
# Documents that were written

A value whose numbers are integers is written as a text that is taken apart into the
document that shows the value, with its members in the same order: the text spells the tokens
of that document.
-/

namespace SourceHarvest.Json

/-- The numeral that an integer is written as. -/
def Number.numeral : Number → Numeral
  | natural value => ⟨false, digitsOf value, none, none⟩
  | negative magnitude => ⟨true, digitsOf magnitude, none, none⟩
  | real .. => ⟨false, [], none, none⟩

/-- The number is an integer by its form. -/
def Number.Integral (number : Number) : Prop :=
  number.toInt?.isSome

namespace Value

mutual

/-- All numbers in the value are integers by their form. -/
def Integral : Value → Prop
  | number value => value.Integral
  | array items => ItemsIntegral items
  | object members => MembersIntegral members
  | _ => True

/-- All numbers in the values are integers by their form. -/
def ItemsIntegral : List Value → Prop
  | [] => True
  | item :: rest => Integral item ∧ ItemsIntegral rest

/-- All numbers in the members are integers by their form. -/
def MembersIntegral : List (String × Value) → Prop
  | [] => True
  | (_, value) :: rest => Integral value ∧ MembersIntegral rest

end

mutual

/-- The document that shows a value. -/
def document : Value → Document
  | null => .null
  | boolean value => .boolean value
  | number value => .numeral value.numeral
  | text value => .text (some value)
  | array items => .array (documents items)
  | object members => .object (memberDocuments members)

/-- The documents that show several values. -/
def documents : List Value → List Document
  | [] => []
  | item :: rest => document item :: documents rest

/-- The documents that show several members. -/
def memberDocuments : List (String × Value) → List (Option String × Document)
  | [] => []
  | (name, value) :: rest => (some name, document value) :: memberDocuments rest

end

end Value

/-! ## From values to texts -/

namespace Token

theorem SpellsAll.single {token : Token} {word : List Char} (spelled : Spells token word) :
    SpellsAll [token] word := by
  have all := SpellsAll.cons spelled .nil
  rwa [List.append_nil] at all

/-- Rows are put behind each other. -/
theorem SpellsAll.append {first second : List Token} {source behind : List Char}
    (spelled : SpellsAll first source) (further : SpellsAll second behind) :
    SpellsAll (first ++ second) (source ++ behind) := by
  induction spelled with
  | nil => exact further
  | blank space _ inductionHypothesis => exact .blank space inductionHypothesis
  | cons token _ inductionHypothesis =>
      rw [List.append_assoc]
      exact .cons token inductionHypothesis

theorem SpellsAll.lineAt {tokens : List Token} {rest : List Char} (spelled : SpellsAll tokens rest)
    (level : Nat) : SpellsAll tokens (Value.lineAt level ++ rest) := by
  refine .blank rfl ?_
  induction 2 * level with
  | zero => exact spelled
  | succ count inductionHypothesis => exact .blank rfl inductionHypothesis

end Token

namespace Value

open Document (itemTokens memberTokens intercalate_cons)
open Token (SpellsAll)

theorem spells_number {number : Number} (integral : number.Integral) :
    Token.Spells (.numeral number.numeral) number.write := by
  cases number with
  | real => cases integral
  | natural value => exact .unsigned rfl (spellsMagnitude_decimalDigits false value)
  | negative magnitude => exact .signed rfl (spellsMagnitude_decimalDigits true magnitude)

mutual

/-- The spread text of a value spells the tokens of the document that shows it. -/
theorem spellsAll_writeSpread (value : Value) (integral : value.Integral) (level : Nat) :
    SpellsAll value.document.tokens (value.writeSpread level) := by
  cases value with
  | null => exact .single .null
  | boolean value => exact .single (Token.spells_writeBoolean value)
  | number value => exact .single (spells_number integral)
  | text value => exact .single (Token.spells_write value)
  | array items =>
      cases items with
      | nil => exact .cons .openArray (.single .closeArray)
      | cons item others =>
          have first := spellsAll_writeSpread item integral.1 (level + 1)
          have further := spellsAll_spreadItems others integral.2 (level + 1)
          have closed := (SpellsAll.single .closeArray).lineAt level
          have all := SpellsAll.cons .openArray (((first.append further).append closed).lineAt (level + 1))
          simpa [writeSpread, document, documents, Document.tokens, itemTokens, intercalate_cons]
            using all
  | object members =>
      cases members with
      | nil => exact .cons .openObject (.single .closeObject)
      | cons member others =>
          rcases member with ⟨name, value⟩
          have first := spellsAll_writeSpread value integral.1 (level + 1)
          have named := SpellsAll.cons (Token.spells_write name) (.cons .colon (.blank (c := ' ') rfl first))
          have further := spellsAll_spreadMembers others integral.2 (level + 1)
          have closed := (SpellsAll.single .closeObject).lineAt level
          have all := SpellsAll.cons .openObject (((named.append further).append closed).lineAt (level + 1))
          simpa [writeSpread, document, memberDocuments, Document.tokens, memberTokens,
            intercalate_cons] using all

/-- Further elements spell their tokens, each after a comma. -/
theorem spellsAll_spreadItems (items : List Value) (integral : ItemsIntegral items) (level : Nat) :
    SpellsAll ((itemTokens (documents items)).flatMap (.comma :: ·)) (spreadItems level items) := by
  cases items with
  | nil => exact .nil
  | cons item others =>
      have first := spellsAll_writeSpread item integral.1 level
      have further := spellsAll_spreadItems others integral.2 level
      have all := SpellsAll.cons .comma ((first.append further).lineAt level)
      simpa [spreadItems, documents, itemTokens] using all

/-- Further members spell their tokens, each after a comma. -/
theorem spellsAll_spreadMembers (members : List (String × Value))
    (integral : MembersIntegral members) (level : Nat) :
    SpellsAll ((memberTokens (memberDocuments members)).flatMap (.comma :: ·))
      (spreadMembers level members) := by
  cases members with
  | nil => exact .nil
  | cons member others =>
      rcases member with ⟨name, value⟩
      have first := spellsAll_writeSpread value integral.1 level
      have named := SpellsAll.cons (Token.spells_write name) (.cons .colon (.blank (c := ' ') rfl first))
      have further := spellsAll_spreadMembers others integral.2 level
      have all := SpellsAll.cons .comma ((named.append further).lineAt level)
      simpa [spreadMembers, memberDocuments, memberTokens] using all

end

/-- The document that shows a value is written with its spread text. -/
theorem writes_spread {value : Value} (integral : value.Integral) :
    value.document.Writes value.spread := by
  rw [Document.Writes, spread, String.toList_ofList]
  exact spellsAll_writeSpread value integral 0

end Value

/-- What is written spread over lines is taken apart into the document of the value. -/
theorem Document.ofText?_spread {value : Value} (integral : value.Integral) :
    Document.ofText? value.spread = some value.document :=
  Document.ofText?_eq_some_iff.mpr (Value.writes_spread integral)

/-! ## Fields of documents -/

namespace Document

open Value

section Members

variable {α : Type} (present : α → Document) {members : List (String × α)}

theorem filter_eq_nil_of_fresh {name : String} (fresh : name ∉ members.map (·.1)) :
    ((members.map fun member => (some member.1, present member.2)).filter
      fun member => member.1 == some name) = [] := by
  rw [List.filter_eq_nil_iff]
  intro member inside
  rcases List.mem_map.mp inside with ⟨⟨other, value⟩, found, rfl⟩
  have apart : other ≠ name := by
    rintro rfl
    exact fresh (List.mem_map_of_mem found)
  simpa using apart

/-- Where names occur once, every member is found under its name. -/
theorem lookup_of_mem (distinct : (members.map (·.1)).Nodup) {member : String × α}
    (inside : member ∈ members) : members.lookup member.1 = some member.2 := by
  induction members with
  | nil => cases inside
  | cons first rest inductionHypothesis =>
      rcases List.nodup_cons.mp distinct with ⟨fresh, restDistinct⟩
      rcases List.mem_cons.mp inside with rfl | later
      · exact List.lookup_cons_self
      · have apart : member.1 ≠ first.1 := by
          intro same
          exact fresh (List.mem_map.mpr ⟨member, later, same⟩)
        rw [List.lookup_cons, beq_eq_false_iff_ne.mpr apart]
        exact inductionHypothesis restDistinct later

/-- Where names occur once, the only member of a name is the one that is looked up. -/
theorem onlyMember?_map (distinct : (members.map (·.1)).Nodup) (name : String) :
    onlyMember? (members.map fun member => (some member.1, present member.2)) name =
      some ((members.lookup name).map present) := by
  induction members with
  | nil => rfl
  | cons member rest inductionHypothesis =>
      rcases member with ⟨other, value⟩
      rcases List.nodup_cons.mp distinct with ⟨fresh, restDistinct⟩
      by_cases same : other = name
      · subst same
        have none := filter_eq_nil_of_fresh present fresh
        simp only [List.map_cons, onlyMember?, List.filter_cons, BEq.rfl, if_true, none,
          List.lookup_cons, Option.map_some]
      · have apart : (some other == some name) = false := by simpa using same
        have missed : (name == other) = false := by simpa using Ne.symm same
        have further := inductionHypothesis restDistinct
        rw [onlyMember?] at further
        rw [List.map_cons, onlyMember?, List.filter_cons, apart, List.lookup_cons, missed]
        exact further

/-- The fields of an object whose names occur once are those that are looked up. -/
theorem fields?_map (distinct : (members.map (·.1)).Nodup) (names : List String) :
    (Document.object (members.map fun member => (some member.1, present member.2))).fields? names =
      some (names.map fun name => (members.lookup name).map present) := by
  have named : ((members.map fun member => (some member.1, present member.2)).all
      fun member => member.1.isSome) = true := by
    simp
  rw [fields?, if_pos named]
  induction names with
  | nil => rfl
  | cons name rest inductionHypothesis =>
      rw [List.mapM_cons, onlyMember?_map present distinct, inductionHypothesis]
      rfl

end Members

theorem memberDocuments_eq_map (members : List (String × Value)) :
    memberDocuments members = members.map fun member => (some member.1, member.2.document) := by
  induction members with
  | nil => rfl
  | cons member rest inductionHypothesis => rw [memberDocuments, inductionHypothesis, List.map_cons]

/-- The fields of a written record are those that it has. -/
theorem fields?_object {members : List (String × Value)} (distinct : (members.map (·.1)).Nodup)
    (names : List String) :
    (Value.object members).document.fields? names =
      some (names.map fun name => (members.lookup name).map Value.document) := by
  rw [Value.document, memberDocuments_eq_map]
  exact fields?_map Value.document distinct names

/-- A record with exactly the fields that are asked for, in their order, is read field by field. -/
theorem fields?_members {members : List (String × Value)} (distinct : (members.map (·.1)).Nodup) :
    (Value.object members).document.fields? (members.map (·.1)) =
      some (members.map fun member => some member.2.document) := by
  rw [fields?_object distinct, List.map_map, Option.some.injEq]
  apply List.map_congr_left
  intro member inside
  rw [Function.comp_apply, lookup_of_mem distinct inside, Option.map_some]

/-- What is written for the members of a map is read member by member. -/
theorem mapOf?_object {α : Type} {read : Document → Option α} {entries : List (String × α)}
    {write : α → Value} (found : ∀ entry ∈ entries, read (write entry.2).document = some entry.2) :
    (Value.object (entries.map fun entry => (entry.1, write entry.2))).document.mapOf? read =
      some (orderMembers entries) := by
  refine mapOf?_eq_some_iff.mpr ⟨_, entries, rfl, ?_, rfl⟩
  induction entries with
  | nil => exact .nil
  | cons entry rest inductionHypothesis =>
      exact .cons ⟨rfl, found entry List.mem_cons_self⟩
        (inductionHypothesis fun other member => found other (List.mem_cons_of_mem _ member))

/-- A map of which one member cannot be read is not read at all. -/
theorem mapOf?_object_eq_none {α : Type} {read : Document → Option α} {entries : List (String × α)}
    {write : α → Value} {entry : String × α} (inside : entry ∈ entries)
    (missed : read (write entry.2).document = none) :
    (Value.object (entries.map fun entry => (entry.1, write entry.2))).document.mapOf? read =
      none := by
  rw [Option.eq_none_iff_forall_ne_some]
  intro _ map
  obtain ⟨members, listed, same, each, -⟩ := mapOf?_eq_some_iff.mp map
  cases same
  clear map
  induction entries generalizing listed with
  | nil => cases inside
  | cons first rest inductionHypothesis =>
      cases each with
      | cons here further =>
          rcases List.mem_cons.mp inside with rfl | later
          · cases missed.symm.trans here.2
          · exact inductionHypothesis later _ further

end Document

/-! ## Numbers in documents -/

/-- A natural number of 64 bits is read from its document, a larger one is not. -/
theorem Document.natural?_document {bound : Nat} (within : bound ≤ greatestWord) (value : Nat) :
    (Value.ofNat value).document.natural? bound = if value ≤ bound then some value else none := by
  by_cases fits : value ≤ bound
  · rw [if_pos fits]
    exact (natural?_eq_some_iff within).mpr ⟨⟨_, rfl, digitsValue_digitsOf value⟩, fits⟩
  · rw [if_neg fits, Option.eq_none_iff_forall_ne_some]
    intro found read
    obtain ⟨⟨digits, same, stands⟩, small⟩ := (natural?_eq_some_iff within).mp read
    cases same
    rw [digitsValue_digitsOf] at stands
    exact fits (stands ▸ small)

end SourceHarvest.Json
