import SourceHarvest.Json.Decode
import Mathlib.Data.List.Forall2

/-!
# Documents as data

Which documents are records, maps and natural numbers, told without the readers, and that the
readers find exactly these.
-/

namespace SourceHarvest.Json

/-- A numeral stands for a natural number only if it has neither sign nor fraction nor exponent. -/
theorem Numeral.eq_of_number?_natural {numeral : Numeral} {value : Nat}
    (number : numeral.number? = some (.natural value)) :
    ∃ digits, numeral = ⟨false, digits, none, none⟩ ∧ digitsValue digits = value := by
  rcases numeral with ⟨negative, whole, fraction, exponent⟩
  rw [number?] at number
  split at number
  · rename_i plain
    cases number
    simp only [Bool.and_eq_true, Option.isNone_iff_eq_none, Bool.not_eq_true'] at plain
    rcases plain with ⟨⟨⟨rfl, rfl⟩, rfl⟩, _⟩
    exact ⟨whole, rfl, rfl⟩
  · split at number
    · cases number
    · obtain ⟨_, _, real⟩ := Option.map_eq_some_iff.mp number
      cases real

namespace Document

/-- The readings of several things are those of each of them. -/
theorem mapM_eq_some_iff {α β : Type} {read : α → Option β} {items : List α} {found : List β} :
    items.mapM read = some found ↔
      List.Forall₂ (fun item result => read item = some result) items found := by
  induction items generalizing found with
  | nil =>
      rw [List.mapM_nil, List.forall₂_nil_left_iff]
      exact ⟨fun same => (Option.some.inj same).symm, fun same => congrArg some same.symm⟩
  | cons item rest inductionHypothesis =>
      rw [List.mapM_cons, List.forall₂_cons_left_iff]
      simp only [Option.bind_eq_bind, Option.bind_eq_some_iff, Option.pure_def, Option.some.injEq,
        inductionHypothesis]
      constructor
      · rintro ⟨result, here, results, further, rfl⟩
        exact ⟨result, results, here, further, rfl⟩
      · rintro ⟨result, results, here, further, rfl⟩
        exact ⟨result, here, results, further, rfl⟩

/-- A record is an object in which every name is a text and the name of each field occurs once,
or it is the array of its fields.  Other members do not count. -/
inductive IsRecord (fields : List (String × Document)) : Document → Prop
  | object {members : List (Option String × Document)} :
      (∀ member ∈ members, member.1 ≠ none) →
        (∀ field ∈ fields, (members.filter fun member => member.1 == some field.1) =
          [(some field.1, field.2)]) →
        IsRecord fields (.object members)
  | array : IsRecord fields (.array (fields.map (·.2)))

theorem onlyMember?_eq_some_iff {members : List (Option String × Document)} {name : String}
    {document : Document} :
    onlyMember? members name = some (some document) ↔
      (members.filter fun member => member.1 == some name) = [(some name, document)] := by
  rw [onlyMember?]
  split
  · rename_i none
    simp [none]
  · rename_i member only
    have named : member.1 = some name := by
      have inside : member ∈ members.filter fun member => member.1 == some name := by
        rw [only]
        exact List.mem_singleton_self member
      simpa using (List.mem_filter.mp inside).2
    rw [only, Option.some_inj, Option.some_inj, List.singleton_inj]
    constructor
    · rintro rfl
      rw [← named]
    · rintro rfl
      rfl
  · rename_i several
    constructor
    · intro impossible
      cases impossible
    · intro single
      exact absurd single (several _)

theorem mapM_onlyMember?_eq_some_iff {members : List (Option String × Document)}
    {fields : List (String × Document)} :
    (fields.map (·.1)).mapM (onlyMember? members) = some (fields.map fun field => some field.2) ↔
      ∀ field ∈ fields, (members.filter fun member => member.1 == some field.1) =
        [(some field.1, field.2)] := by
  rw [mapM_eq_some_iff, List.forall₂_map_left_iff, List.forall₂_map_right_iff, List.forall₂_same]
  simp only [onlyMember?_eq_some_iff]

/-- The fields of a record are found exactly in the documents that are one. -/
theorem fields?_eq_some_iff {document : Document} {fields : List (String × Document)} :
    document.fields? (fields.map (·.1)) = some (fields.map fun field => some field.2) ↔
      IsRecord fields document := by
  cases document with
  | object members =>
      have named : (members.all fun member => member.1.isSome) = true ↔
          ∀ member ∈ members, member.1 ≠ none := by
        simp only [List.all_eq_true, Option.isSome_iff_ne_none]
      rw [fields?]
      constructor
      · intro read
        split at read
        · rename_i texts
          exact .object (named.mp texts) (mapM_onlyMember?_eq_some_iff.mp read)
        · cases read
      · rintro ⟨texts, single⟩
        rw [if_pos (named.mpr texts), mapM_onlyMember?_eq_some_iff.mpr single]
  | array items =>
      rw [fields?]
      constructor
      · intro read
        split at read
        · have same : items.map some = (fields.map (·.2)).map some := by
            rw [List.map_map]
            exact Option.some.inj read
          rw [List.map_injective_iff.mpr (fun _ _ => Option.some.inj) same]
          exact .array
        · cases read
      · rintro ⟨⟩
        rw [if_pos (by rw [List.length_map, List.length_map]), List.map_map]
        rfl
  | null | boolean | numeral | text =>
      constructor
      · intro read
        cases read
      · rintro ⟨⟩

/-- A map is an object in which every name is a text and every value can be read; of several
members with one name the last stays. -/
theorem mapOf?_eq_some_iff {α : Type} {read : Document → Option α} {document : Document}
    {entries : List (String × α)} :
    document.mapOf? read = some entries ↔ ∃ members listed, document = .object members ∧
      List.Forall₂ (fun member entry => member.1 = some entry.1 ∧ read member.2 = some entry.2)
        members listed ∧
      orderMembers listed = entries := by
  cases document with
  | object members =>
      have entry (member : Option String × Document) (entry : String × α) :
          (∃ name, member.1 = some name ∧ ∃ value, read member.2 = some value ∧
              (name, value) = entry) ↔
            member.1 = some entry.1 ∧ read member.2 = some entry.2 := by
        constructor
        · rintro ⟨name, named, value, found, rfl⟩
          exact ⟨named, found⟩
        · rintro ⟨named, found⟩
          exact ⟨_, named, _, found, rfl⟩
      simp only [mapOf?, Option.bind_eq_bind, Option.bind_eq_some_iff, mapM_eq_some_iff, entry,
        Option.pure_def, Option.some.injEq, object.injEq]
      constructor
      · rintro ⟨listed, each, ordered⟩
        exact ⟨members, listed, rfl, each, ordered⟩
      · rintro ⟨_, listed, rfl, each, ordered⟩
        exact ⟨listed, each, ordered⟩
  | null | boolean | numeral | text | array =>
      constructor
      · intro read
        cases read
      · rintro ⟨_, _, impossible, _⟩
        cases impossible

theorem text?_eq_some_iff {document : Document} {value : String} :
    document.text? = some value ↔ document = .text (some value) := by
  cases document <;> simp [text?]

/-- The document is a natural number, with neither sign nor fraction nor exponent. -/
def IsNatural (document : Document) (value : Nat) : Prop :=
  ∃ digits, document = .numeral ⟨false, digits, none, none⟩ ∧ Numeral.digitsValue digits = value

/-- A natural number that is read keeps to the bound. -/
theorem le_of_natural? {bound value : Nat} {document : Document}
    (read : document.natural? bound = some value) : value ≤ bound := by
  unfold natural? at read
  split at read
  · split at read
    · split at read
      · cases read
        assumption
      · cases read
    · cases read
  · cases read

theorem natural?_eq_some_iff {bound value : Nat} (within : bound ≤ greatestWord)
    {document : Document} :
    document.natural? bound = some value ↔ document.IsNatural value ∧ value ≤ bound := by
  constructor
  · intro read
    refine ⟨?_, le_of_natural? read⟩
    rw [natural?.eq_def] at read
    split at read
    · split at read
      · rename_i found number
        obtain ⟨digits, rfl, same⟩ := Numeral.eq_of_number?_natural number
        split at read
        · cases read
          exact ⟨digits, rfl, same⟩
        · cases read
      · cases read
    · cases read
  · rintro ⟨⟨digits, rfl, rfl⟩, small⟩
    have fits : Numeral.digitsValue digits ≤ greatestWord := Nat.le_trans small within
    simp only [natural?, Numeral.number?, Option.isNone_none, Bool.and_self, Bool.not_false,
      decide_eq_true fits, if_true, if_pos small]

end Document

end SourceHarvest.Json
