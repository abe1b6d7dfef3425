import SourceHarvest.Proofs.Syntax.Addresses
import SourceHarvest.Proofs.Text.Slices
import SourceHarvest.Syntax.Extraction
import Mathlib.Data.List.Forall2

/-!
# What extraction finds

The walk over a tree carries the name that heads the construct it has come to.  That name
depends on the constructs around an address alone, so the walk is a selection from the
addresses of the tree, in their order: one chunk for each unit, and nothing else.
-/

namespace SourceHarvest

/-- The text is the part of a source that a span covers. -/
def Span.Covers (span : Span) (source text : String) : Prop :=
  ∃ before after, source.toList = before ++ text.toList ++ after ∧
    Text.byteSize before = span.startByte ∧ Text.byteSize (before ++ text.toList) = span.endByte

namespace SyntaxTree

theorem text?_eq_some_iff {source text : String} {tree : SyntaxTree} :
    tree.text? source = some text ↔ tree.span.Covers source text := by
  rw [text?, Option.map_eq_some_iff, Span.Covers, ← Text.slice?_eq_some_iff]
  constructor
  · rintro ⟨middle, cut, rfl⟩
    rwa [String.toList_ofList]
  · exact fun cut => ⟨text.toList, cut, String.ofList_toList⟩

/-- The name that a class-like construct gives to its parts. -/
def headName? (source : String) (tree : SyntaxTree) : Option String :=
  if tree.kind.isContainer then tree.identifier? source else none

/-- The name that heads an address: that of the innermost construct around it that gives one. -/
def nameAround? (source : String) (root : SyntaxTree) (address : List Nat) : Option String :=
  (root.enclosing address).findSome? (headName? source)

/-- Going down into a construct, its name takes the place of the one around it. -/
theorem nameAround?_append_singleton {source : String} {root tree : SyntaxTree}
    {address : List Nat} (found : root.at? address = some tree) (index : Nat) :
    root.nameAround? source (address ++ [index]) =
      tree.innerContainer? source (root.nameAround? source address) := by
  rw [nameAround?, enclosing_append_singleton found, List.findSome?_cons, innerContainer?, headName?]
  by_cases container : tree.kind.isContainer = true
  · rw [if_pos container, if_pos container]
    cases tree.identifier? source <;> rfl
  · rw [if_neg container, if_neg container]
    rfl

/-- The chunk of the construct at an address, if that is a unit. -/
def chunkAt? (units : List String) (file : SourceFile) (root : SyntaxTree)
    (address : List Nat) : Option ExtractedChunk :=
  (root.at? address).bind fun tree =>
    if units.contains tree.category then
      tree.chunk? file (root.scopeName? file.source) (root.nameAround? file.source address)
    else none

section Walk

variable {units : List String} {file : SourceFile} {root : SyntaxTree}

mutual

/-- The walk below an address selects among the addresses there. -/
theorem chunks_eq_filterMap {base : List Nat} {tree : SyntaxTree}
    (found : root.at? base = some tree) :
    chunks units file (root.scopeName? file.source) (root.nameAround? file.source base) tree =
      tree.addresses.filterMap fun inner => chunkAt? units file root (base ++ inner) := by
  cases tree with
  | node category named span nameIndex children =>
      have placed (place : Nat) : root.at? (base ++ [0 + place]) = children[place]? := by
        rw [at?_append_singleton found, Nat.zero_add]
        rfl
      have parts := chunksOfAll_eq_filterMap placed fun place =>
        nameAround?_append_singleton found place
      have here : chunkAt? units file root (base ++ []) =
          if units.contains category then
            (node category named span nameIndex children).chunk? file
              (root.scopeName? file.source) (root.nameAround? file.source base)
          else none := by
        rw [List.append_nil, chunkAt?, found]
        rfl
      rw [chunks, parts, addresses, List.filterMap_cons, here]
      split
      · cases chunk? file (root.scopeName? file.source) (root.nameAround? file.source base)
          (node category named span nameIndex children) <;> rfl
      · rfl

theorem chunksOfAll_eq_filterMap {base : List Nat} {index : Nat} {trees : List SyntaxTree}
    {around : Option String} (placed : ∀ place, root.at? (base ++ [index + place]) = trees[place]?)
    (headed : ∀ place, root.nameAround? file.source (base ++ [place]) = around) :
    chunksOfAll units file (root.scopeName? file.source) around trees =
      (addressesFrom index trees).filterMap fun inner =>
        chunkAt? units file root (base ++ inner) := by
  cases trees with
  | nil => rfl
  | cons tree rest =>
      have start : root.at? (base ++ [index]) = some tree := placed 0
      have here := chunks_eq_filterMap start
      have placedLater (place : Nat) : root.at? (base ++ [index + 1 + place]) = rest[place]? := by
        rw [Nat.add_assoc, Nat.add_comm 1, placed (place + 1), List.getElem?_cons_succ]
      have later := chunksOfAll_eq_filterMap placedLater headed
      rw [headed index] at here
      rw [chunksOfAll, here, later, addressesFrom, List.filterMap_append, List.filterMap_map]
      simp only [Function.comp_def, List.append_assoc, List.singleton_append]

end

end Walk

/-- Extraction selects among the addresses of the tree. -/
theorem extract_eq_filterMap (units : List String) (file : SourceFile) (root : SyntaxTree) :
    root.extract units file = root.addresses.filterMap (chunkAt? units file root) := by
  have start : root.at? [] = some root := rfl
  exact chunks_eq_filterMap start

/-- A construct that makes a chunk: its category is among the units, and it covers a text of
the source that is not blank. -/
structure UnitAt (units : List String) (source : String) (root : SyntaxTree)
    (address : List Nat) (tree : SyntaxTree) (content : String) : Prop where
  found : root.at? address = some tree
  category : tree.category ∈ units
  covered : tree.span.Covers source content
  filled : ∃ c ∈ content.toList, Text.isBlank c = false

/-- The name of the scope is that of the first part of the root that is a namespace. -/
inductive Declares (source : String) (root : SyntaxTree) : Option String → Prop where
  | nothing (absent : ∀ child ∈ root.children, child.kind ≠ .namespaceUnit) :
      Declares source root none
  | first (before : List SyntaxTree) (child : SyntaxTree) (after : List SyntaxTree)
      (placed : root.children = before ++ child :: after) (kind : child.kind = .namespaceUnit)
      (earlier : ∀ other ∈ before, other.kind ≠ .namespaceUnit) :
      Declares source root (child.identifier? source)

theorem declares_scopeName? (source : String) (root : SyntaxTree) :
    root.Declares source (root.scopeName? source) := by
  rw [scopeName?]
  cases found : root.children.find? fun child => child.kind = .namespaceUnit with
  | none =>
      exact .nothing fun child member => by simpa using List.find?_eq_none.mp found child member
  | some child =>
      obtain ⟨kind, before, after, placed, earlier⟩ := List.find?_eq_some_iff_append.mp found
      exact .first before child after placed (by simpa using kind) fun other member => by
        simpa using earlier other member

/-- The metadata are those of the construct at an address. -/
structure Describes (file : SourceFile) (root : SyntaxTree) (address : List Nat)
    (tree : SyntaxTree) (content : String) (metadata : ChunkMetadata) : Prop where
  absolutePath : metadata.absolutePath = file.absolutePath
  relativePath : metadata.relativePath = file.relativePath
  language : metadata.language = file.language
  kind : metadata.kind = tree.kind
  scopeName : root.Declares file.source metadata.scopeName
  containerName : metadata.containerName =
    if tree.kind.isContainer then tree.identifier? file.source
    else root.nameAround? file.source address
  memberName : metadata.memberName =
    if tree.kind.isMember then tree.identifier? file.source else none
  startLine : metadata.startLine = tree.span.startRow + 1
  endLine : metadata.endLine = tree.span.endRow + 1
  contentHash : metadata.contentHash = Digest.Sha256.hexDigest (utf8Bytes content)

section ChunkAt

variable {units : List String} {file : SourceFile} {root : SyntaxTree} {address : List Nat}

/-- A chunk at an address is that of a unit there. -/
theorem unitAt_of_chunkAt? {chunk : ExtractedChunk}
    (made : chunkAt? units file root address = some chunk) :
    ∃ tree, root.UnitAt units file.source address tree chunk.content ∧
      root.Describes file address tree chunk.content chunk.metadata := by
  obtain ⟨tree, found, own⟩ := Option.bind_eq_some_iff.mp made
  split at own
  · rename_i category
    obtain ⟨content, cut, filled⟩ := Option.bind_eq_some_iff.mp own
    split at filled
    · cases filled
    · rename_i notBlank
      cases filled
      have some : ∃ c ∈ content.toList, Text.isBlank c = false := by
        simpa [Text.isBlankText] using notBlank
      exact ⟨tree, ⟨found, by simpa using category, text?_eq_some_iff.mp cut, some⟩,
        { absolutePath := rfl
          relativePath := rfl
          language := rfl
          kind := rfl
          scopeName := declares_scopeName? file.source root
          containerName := rfl
          memberName := rfl
          startLine := rfl
          endLine := rfl
          contentHash := rfl }⟩
  · cases own

/-- Every unit makes a chunk. -/
theorem UnitAt.exists_chunkAt? {tree : SyntaxTree} {content : String}
    (unit : root.UnitAt units file.source address tree content) :
    ∃ chunk, chunkAt? units file root address = some chunk := by
  have notBlank : ¬ Text.isBlankText content.toList = true := by
    simpa [Text.isBlankText] using unit.filled
  rw [chunkAt?, unit.found, Option.bind_some, if_pos (by simpa using unit.category), chunk?,
    text?_eq_some_iff.mpr unit.covered, Option.bind_some, if_neg notBlank]
  exact ⟨_, rfl⟩

/-- There is a chunk at exactly the addresses of units. -/
theorem isSome_chunkAt?_iff : (chunkAt? units file root address).isSome = true ↔
    ∃ tree content, root.UnitAt units file.source address tree content := by
  rw [Option.isSome_iff_exists]
  constructor
  · rintro ⟨chunk, made⟩
    obtain ⟨tree, unit, _⟩ := unitAt_of_chunkAt? made
    exact ⟨tree, chunk.content, unit⟩
  · rintro ⟨tree, content, unit⟩
    exact unit.exists_chunkAt?

end ChunkAt

/-- What a selection keeps is related to what it makes of it. -/
theorem forall₂_filterMap {α β : Type} {select : α → Option β} {related : α → β → Prop}
    (relates : ∀ {value found}, select value = some found → related value found)
    (values : List α) :
    List.Forall₂ related (values.filter fun value => (select value).isSome)
      (values.filterMap select) := by
  induction values with
  | nil => exact .nil
  | cons value rest inductionHypothesis =>
      cases found : select value with
      | none => simpa [found] using inductionHypothesis
      | some made => simpa [found] using List.Forall₂.cons (relates found) inductionHypothesis

/-- Every chunk is that of a unit somewhere in the tree. -/
theorem exists_unitAt_of_mem_extract {units : List String} {file : SourceFile} {root : SyntaxTree}
    {chunk : ExtractedChunk} (member : chunk ∈ root.extract units file) :
    ∃ address tree, root.UnitAt units file.source address tree chunk.content ∧
      root.Describes file address tree chunk.content chunk.metadata := by
  rw [extract_eq_filterMap] at member
  obtain ⟨address, _, made⟩ := List.mem_filterMap.mp member
  exact ⟨address, unitAt_of_chunkAt? made⟩

/-- The text of every chunk is a part of the source. -/
theorem covers_of_mem_extract {units : List String} {file : SourceFile} {root : SyntaxTree}
    {chunk : ExtractedChunk} (member : chunk ∈ root.extract units file) :
    ∃ span : Span, span.Covers file.source chunk.content := by
  obtain ⟨_, tree, unit, _⟩ := exists_unitAt_of_mem_extract member
  exact ⟨tree.span, unit.covered⟩

/-- Extraction gives one chunk for each unit of the tree, in preorder, and nothing else. -/
theorem extract_spec (units : List String) (file : SourceFile) (root : SyntaxTree) :
    ∃ chosen : List (List Nat),
      (∀ address, address ∈ chosen ↔
        ∃ tree content, root.UnitAt units file.source address tree content) ∧
      chosen.Pairwise (· < ·) ∧ (chosen.filterMap root.at?).Sublist root.preorder ∧
      List.Forall₂
        (fun address chunk => ∃ tree,
          root.UnitAt units file.source address tree chunk.content ∧
            root.Describes file address tree chunk.content chunk.metadata)
        chosen (root.extract units file) := by
  refine ⟨root.addresses.filter fun address => (chunkAt? units file root address).isSome,
    fun address => ?_, (pairwise_addresses root).filter _, ?_, ?_⟩
  · rw [List.mem_filter, isSome_chunkAt?_iff]
    constructor
    · exact fun chosen => chosen.2
    · rintro ⟨tree, content, unit⟩
      exact ⟨mem_addresses_iff.mpr ⟨tree, unit.found⟩, tree, content, unit⟩
  · rw [← filterMap_at?_addresses]
    exact List.filter_sublist.filterMap root.at?
  · rw [extract_eq_filterMap]
    exact forall₂_filterMap unitAt_of_chunkAt? root.addresses

end SyntaxTree

end SourceHarvest
