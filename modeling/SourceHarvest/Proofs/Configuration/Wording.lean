import SourceHarvest.Configuration.Environment
import SourceHarvest.Proofs.Json.Tokens
import SourceHarvest.Proofs.Path.Names

/-!
# How settings are worded

Which texts stand for a number, a truth value, a service or a list, told without the readers.  Blanks
around a word never count.  Every reader finds exactly what is told here.
-/

namespace SourceHarvest

/-! ## Trimming -/

namespace Text

/-- A text is this one with blanks around it, and the blanks go no further. -/
structure TrimsTo (text core : List Char) : Prop where
  around : ∃ before behind, text = before ++ core ++ behind ∧ isBlankText before = true ∧
    isBlankText behind = true
  first : ∀ c ∈ core.head?, isBlank c = false
  last : ∀ c ∈ core.getLast?, isBlank c = false

variable {text core : List Char}

theorem dropWhile_append_blank {before rest : List Char} (blank : isBlankText before = true)
    (starts : ∀ c ∈ rest.head?, isBlank c = false) :
    (before ++ rest).dropWhile isBlank = rest := by
  rw [List.dropWhile_append_of_pos (List.all_eq_true.mp blank)]
  cases rest with
  | nil => rfl
  | cons c others => exact List.dropWhile_cons_of_neg (by simp [starts c rfl])

theorem not_isBlank_of_head?_dropWhile {c : Char} (head : c ∈ (text.dropWhile isBlank).head?) :
    isBlank c = false := by
  have starts := List.head?_dropWhile_not isBlank text
  rwa [Option.mem_def.mp head] at starts

/-- What a text trims to is what is left of it when blanks are dropped at both ends. -/
theorem trimsTo_iff : TrimsTo text core ↔ trimBlanks text = core := by
  constructor
  · rintro ⟨⟨before, behind, rfl, blank, blankBehind⟩, first, last⟩
    by_cases empty : core = []
    · subst empty
      rw [trimBlanks_eq_nil_iff, isBlankText, List.append_nil, List.all_append, Bool.and_eq_true]
      exact ⟨blank, blankBehind⟩
    · have starts : ∀ c ∈ (core ++ behind).head?, isBlank c = false := by
        rwa [List.head?_append_of_ne_nil _ empty]
      have ends : ∀ c ∈ core.reverse.head?, isBlank c = false := by
        rwa [List.head?_reverse]
      have reversed : isBlankText behind.reverse = true := by
        rwa [isBlankText, List.all_reverse]
      rw [trimBlanks, List.append_assoc, dropWhile_append_blank blank starts, List.reverse_append,
        dropWhile_append_blank reversed ends, List.reverse_reverse]
  · rintro rfl
    have cut := List.takeWhile_append_dropWhile (p := isBlank) (l := text)
    have cutBehind := List.takeWhile_append_dropWhile (p := isBlank)
      (l := (text.dropWhile isBlank).reverse)
    have left : text.dropWhile isBlank = trimBlanks text ++
        ((text.dropWhile isBlank).reverse.takeWhile isBlank).reverse := by
      rw [trimBlanks, ← List.reverse_append, cutBehind, List.reverse_reverse]
    refine ⟨⟨text.takeWhile isBlank, ((text.dropWhile isBlank).reverse.takeWhile isBlank).reverse,
      ?_, List.all_takeWhile, ?_⟩, fun c head => ?_, fun c final => ?_⟩
    · rw [List.append_assoc, ← left, cut]
    · rw [isBlankText, List.all_reverse, List.all_takeWhile]
    · apply not_isBlank_of_head?_dropWhile
      rw [left, List.head?_append, Option.mem_def.mp head]
      rfl
    · rw [trimBlanks, List.getLast?_reverse] at final
      exact not_isBlank_of_head?_dropWhile final

end Text

/-! ## Words -/

namespace Environment

/-- A natural number of 64 bits: digits, maybe behind a plus. -/
def IsWord (text : String) (value : Nat) : Prop :=
  ∃ (sign : List Char) (digits : List (Fin 10)), (sign = [] ∨ sign = ['+']) ∧ digits ≠ [] ∧
    Text.TrimsTo text.toList (sign ++ Json.digitChars digits) ∧
    Json.Numeral.digitsValue digits = value ∧ value ≤ Json.greatestWord

/-- A truth value, in small letters. -/
def IsTruth (text : String) (value : Bool) : Prop :=
  Text.TrimsTo text.toList (if value then "true" else "false").toList

/-- The name of a service. -/
def serviceName : EmbeddingBackend → String
  | .ollama => "ollama"
  | .openai => "openai"

/-- The name of a service, in letters of any case. -/
def IsService (text : String) (backend : EmbeddingBackend) : Prop :=
  ∃ name, Text.TrimsTo text.toList name ∧ name.map Char.toLower = (serviceName backend).toList

/-- The parts between commas, without blanks around them, as far as anything is left of them. -/
def Lists (text : String) (items : List String) : Prop :=
  ∃ parts cores, parts ≠ [] ∧ (∀ part ∈ parts, ',' ∉ part) ∧
    Text.joinWithMark ',' parts = text.toList ∧ List.Forall₂ Text.TrimsTo parts cores ∧
    items.map String.toList = cores.filter (· ≠ [])

/-- The items of a list without dots in front and in small letters. -/
def ListsExtensions (text : String) (extensions : List String) : Prop :=
  ∃ items, Lists text items ∧ List.Forall₂ (fun item extension => ∃ count bare,
    item.toList = List.replicate count '.' ++ bare ∧ bare.head? ≠ some '.' ∧
      extension.toList = bare.map Char.toLower) items extensions

theorem toList_trim (text : String) : (Text.trim text).toList = Text.trimBlanks text.toList :=
  String.toList_ofList

/-- Digits are the characters of numbers below ten. -/
theorem exists_digitChars {characters : List Char} (digits : characters.all Char.isDigit = true) :
    ∃ values, characters = Json.digitChars values := by
  induction characters with
  | nil => exact ⟨[], rfl⟩
  | cons c rest inductionHypothesis =>
      rw [List.all_cons, Bool.and_eq_true] at digits
      obtain ⟨low, high⟩ := Char.isDigit_iff_toNat.mp digits.1
      have found : Json.Token.digit? c = some ⟨c.toNat - 48, by change c.toNat ≤ 57 at high; omega⟩ :=
        dif_pos ⟨UInt32.le_iff_toNat_le.mpr low, Nat.lt_succ_of_le high⟩
      obtain ⟨values, rfl⟩ := inductionHypothesis digits.2
      exact ⟨_ :: values, congrArg (· :: _) (Json.Token.digit?_eq_some_iff.mp found)⟩

theorem all_isDigit_digitChars (digits : List (Fin 10)) :
    (Json.digitChars digits).all Char.isDigit = true := by
  have each (digit : Fin 10) : digit.val.digitChar.isDigit = true := by
    revert digit
    decide
  rw [List.all_eq_true]
  intro c member
  obtain ⟨digit, _, rfl⟩ := List.mem_map.mp member
  exact each digit

theorem foldl_digitChars (digits : List (Fin 10)) :
    (Json.digitChars digits).foldl (fun value digit => 10 * value + (digit.toNat - 48)) 0 =
      Json.Numeral.digitsValue digits := by
  have stands (digit : Fin 10) : digit.val.digitChar.toNat - 48 = digit.val := by
    revert digit
    decide
  simp only [Json.digitChars, List.foldl_map, stands]
  rfl

/-- A text without a plus in front. -/
def unsigned : List Char → List Char
  | '+' :: rest => rest
  | all => all

theorem exists_sign (characters : List Char) :
    ∃ sign, (sign = [] ∨ sign = ['+']) ∧ characters = sign ++ unsigned characters := by
  rw [unsigned.eq_def]
  split
  · exact ⟨['+'], .inr rfl, rfl⟩
  · exact ⟨[], .inl rfl, rfl⟩

theorem unsigned_digitChars {sign : List Char} (plain : sign = [] ∨ sign = ['+'])
    (digits : List (Fin 10)) : unsigned (sign ++ Json.digitChars digits) = Json.digitChars digits := by
  rcases plain with rfl | rfl
  · have digit := all_isDigit_digitChars digits
    rw [List.nil_append, unsigned.eq_def]
    split
    · rename_i signed
      rw [signed, List.all_cons] at digit
      cases digit
    · rfl
  · rfl

/-- A number is read from a text exactly if it is worded there. -/
theorem wordOfText?_trim_eq_some_iff {text : String} {value : Nat} :
    wordOfText? (Text.trim text) = some value ↔ IsWord text value := by
  have unfolded : wordOfText? (Text.trim text) =
      (fun digits => if digits.isEmpty || !digits.all Char.isDigit then none
        else if digits.foldl (fun value digit => 10 * value + (digit.toNat - 48)) 0 ≤
            Json.greatestWord
          then some (digits.foldl (fun value digit => 10 * value + (digit.toNat - 48)) 0)
          else none) (unsigned (Text.trim text).toList) :=
    rfl
  rw [unfolded, toList_trim]
  constructor
  · intro read
    obtain ⟨sign, plain, whole⟩ := exists_sign (Text.trimBlanks text.toList)
    simp only at read
    split at read
    · cases read
    rename_i digital
    simp only [Bool.or_eq_true, not_or, Bool.not_eq_true, Bool.not_eq_false'] at digital
    obtain ⟨digits, same⟩ := exists_digitChars digital.2
    rw [same] at whole digital read
    rw [foldl_digitChars, Option.ite_none_right_eq_some, Option.some.injEq] at read
    obtain ⟨fits, rfl⟩ := read
    refine ⟨sign, digits, plain, ?_, Text.trimsTo_iff.mpr whole, rfl, fits⟩
    rintro rfl
    cases digital.1
  · rintro ⟨sign, digits, plain, filled, trims, rfl, fits⟩
    have filled : (Json.digitChars digits).isEmpty = false := by
      cases digits with
      | nil => exact absurd rfl filled
      | cons => rfl
    rw [Text.trimsTo_iff.mp trims]
    simp only [unsigned_digitChars plain, filled, all_isDigit_digitChars, foldl_digitChars, if_pos fits]
    rfl

theorem booleanOfText?_trim_eq_some_iff {text : String} {value : Bool} :
    booleanOfText? (Text.trim text) = some value ↔ IsTruth text value := by
  have worded (word : String) : Text.trim text = word ↔ Text.TrimsTo text.toList word.toList := by
    rw [Text.trimsTo_iff, ← toList_trim, String.toList_inj]
  rw [IsTruth, ← worded, booleanOfText?]
  split
  · rename_i yes
    rw [yes]
    cases value <;> simp
  · rename_i other
    split
    · rename_i no
      rw [no]
      cases value <;> simp
    · rename_i no
      refine iff_of_false (by simp) fun same => ?_
      cases value
      · exact no same
      · exact other same

theorem map_toList_listOfText (text : String) : (listOfText text).map String.toList =
    ((Text.splitAtMark ',' text.toList).map Text.trimBlanks).filter (· ≠ []) := by
  rw [listOfText]
  generalize (Text.splitAtMark ',' text.toList).map Text.trimBlanks = cores
  induction cores with
  | nil => rfl
  | cons core rest inductionHypothesis =>
      cases core with
      | nil => simpa using inductionHypothesis
      | cons => simpa using inductionHypothesis

/-- A text lists just the items that are read from it. -/
theorem lists_iff {text : String} {items : List String} :
    Lists text items ↔ listOfText text = items := by
  constructor
  · rintro ⟨parts, cores, nonempty, free, joined, trims, left⟩
    have split : Text.splitAtMark ',' text.toList = parts := by
      rw [← joined, Text.splitAtMark_joinWithMark nonempty free]
    have cut : parts.map Text.trimBlanks = cores := by
      rw [← List.forall₂_eq_eq_eq, List.forall₂_map_left_iff]
      exact trims.imp fun _ _ => Text.trimsTo_iff.mp
    apply List.map_injective_iff.mpr fun _ _ => String.toList_injective
    rw [map_toList_listOfText, split, cut, left]
  · rintro rfl
    refine ⟨Text.splitAtMark ',' text.toList, (Text.splitAtMark ',' text.toList).map Text.trimBlanks,
      Text.splitAtMark_ne_nil _ _, fun part => Text.not_mem_of_mem_splitAtMark,
      Text.joinWithMark_splitAtMark _ _, ?_, map_toList_listOfText text⟩
    rw [List.forall₂_map_right_iff, List.forall₂_same]
    exact fun part _ => Text.trimsTo_iff.mpr rfl

theorem lists_listOfText (text : String) : Lists text (listOfText text) :=
  lists_iff.mpr rfl

theorem listsExtensions_extensionsOfText (text : String) :
    ListsExtensions text (extensionsOfText text) := by
  refine ⟨listOfText text, lists_listOfText text, ?_⟩
  rw [extensionsOfText, List.forall₂_map_right_iff, List.forall₂_same]
  intro item _
  refine ⟨(item.toList.takeWhile (· == '.')).length, item.toList.dropWhile (· == '.'), ?_, ?_, ?_⟩
  · have dots : item.toList.takeWhile (· == '.') =
        List.replicate (item.toList.takeWhile (· == '.')).length '.' := by
      rw [List.eq_replicate_iff]
      refine ⟨rfl, fun c member => ?_⟩
      simpa using List.all_eq_true.mp List.all_takeWhile c member
    rw [← dots, List.takeWhile_append_dropWhile]
  · intro dot
    have starts := List.head?_dropWhile_not (· == '.') item.toList
    rw [dot] at starts
    cases starts
  · rw [Path.plainExtension, Text.lowercase, String.toList_ofList, String.toList_ofList]

end Environment

end SourceHarvest
