/-!
# Syntax trees

A syntax tree says for each construct of a source text its category, the bytes and
rows that it covers, and its parts in order.  One of the parts can be marked as the
name of the construct.  A tree can be listed in preorder and rebuilt from that list.
-/

namespace SourceHarvest

/-- The part of a source text that a construct covers: bytes, the last one excluded, and
rows counted from zero. -/
structure Span where
  startByte : Nat
  endByte : Nat
  startRow : Nat
  endRow : Nat
deriving DecidableEq, Repr

/-- A construct of a source text with its parts.  Parts without a name of their own in the
grammar, such as punctuation, are not `named`. -/
inductive SyntaxTree where
  | node (category : String) (named : Bool) (span : Span) (nameIndex : Option Nat)
      (children : List SyntaxTree)

namespace SyntaxTree

/-- The category of the construct. -/
def category : SyntaxTree → String
  | node category _ _ _ _ => category

/-- The construct has a name of its own in the grammar. -/
def isNamed : SyntaxTree → Bool
  | node _ named _ _ _ => named

/-- The part of the source that the construct covers. -/
def span : SyntaxTree → Span
  | node _ _ span _ _ => span

/-- The parts of the construct. -/
def children : SyntaxTree → List SyntaxTree
  | node _ _ _ _ children => children

/-- The part that is marked as the name of the construct. -/
def nameChild? : SyntaxTree → Option SyntaxTree
  | node _ _ _ nameIndex children => nameIndex.bind fun index => children[index]?

mutual

/-- The construct and all inside it, each before its parts. -/
def preorder : SyntaxTree → List SyntaxTree
  | node category named span nameIndex children =>
      node category named span nameIndex children :: preorderAll children

/-- The constructs of several trees in order. -/
def preorderAll : List SyntaxTree → List SyntaxTree
  | [] => []
  | tree :: rest => preorder tree ++ preorderAll rest

end

/-- A construct in a list of constructs, with the number of its parts in place of the parts. -/
structure Listed where
  category : String
  named : Bool
  span : Span
  nameIndex : Option Nat
  childCount : Nat
deriving DecidableEq, Repr

mutual

/-- The list of a tree in preorder. -/
def listed : SyntaxTree → List Listed
  | node category named span nameIndex children =>
      ⟨category, named, span, nameIndex, children.length⟩ :: listedAll children

/-- The lists of several trees in order. -/
def listedAll : List SyntaxTree → List Listed
  | [] => []
  | tree :: rest => listed tree ++ listedAll rest

end

/-- Put one construct in front of trees that are rebuilt already; its parts are the first
of them. -/
def gather (entry : Listed) (trees : List SyntaxTree) : List SyntaxTree :=
  node entry.category entry.named entry.span entry.nameIndex (trees.take entry.childCount) ::
    trees.drop entry.childCount

/-- The trees that a list in preorder stands for. -/
def forestOfListed (entries : List Listed) : List SyntaxTree :=
  entries.foldr gather []

/-- The tree that a list in preorder stands for. -/
def ofListed? (entries : List Listed) : Option SyntaxTree :=
  (forestOfListed entries).head?

mutual

theorem foldr_gather_listed (tree : SyntaxTree) (after : List SyntaxTree) :
    (listed tree).foldr gather after = tree :: after := by
  cases tree with
  | node category named span nameIndex children =>
      simp only [listed, List.foldr_cons]
      rw [foldr_gather_listedAll children after]
      simp [gather]

theorem foldr_gather_listedAll (trees : List SyntaxTree) (after : List SyntaxTree) :
    (listedAll trees).foldr gather after = trees ++ after := by
  cases trees with
  | nil => rfl
  | cons tree rest =>
      simp only [listedAll, List.foldr_append, List.cons_append]
      rw [foldr_gather_listedAll rest after, foldr_gather_listed tree]

end

/-- A tree is rebuilt from its list. -/
theorem ofListed?_listed (tree : SyntaxTree) : ofListed? (listed tree) = some tree := by
  simp [ofListed?, forestOfListed, foldr_gather_listed]

end SyntaxTree

/-- A source text with its tree.  `hasError` says that the grammar had to pass over parts
of the text. -/
structure ParsedSource where
  tree : SyntaxTree
  source : String
  language : String
  hasError : Bool

end SourceHarvest
