import SourceHarvest.Syntax.Tree
import Mathlib.Data.List.Basic

/-!
# Addresses in a syntax tree

The address of a construct says which part to take at each step from the root down.  In
the lexicographic order of addresses a construct comes before its parts, and those before
the parts of later siblings, so it is the order in which a tree is listed.
-/

namespace SourceHarvest.SyntaxTree

/-- The construct at an address. -/
def at? : SyntaxTree → List Nat → Option SyntaxTree
  | tree, [] => some tree
  | tree, index :: rest => tree.children[index]?.bind fun child => at? child rest

theorem at?_append (root : SyntaxTree) (outer inner : List Nat) :
    root.at? (outer ++ inner) = (root.at? outer).bind (·.at? inner) := by
  induction outer generalizing root with
  | nil => rfl
  | cons index rest inductionHypothesis =>
      simp only [List.cons_append, at?, inductionHypothesis, Option.bind_assoc]

theorem at?_append_singleton {root tree : SyntaxTree} {address : List Nat}
    (found : root.at? address = some tree) (index : Nat) :
    root.at? (address ++ [index]) = tree.children[index]? := by
  simp [at?_append, found, at?]

mutual

/-- The addresses of a construct and of all inside it, each before those of its parts. -/
def addresses : SyntaxTree → List (List Nat)
  | node _ _ _ _ children => [] :: addressesFrom 0 children

/-- The addresses in several siblings, the first of which has the given number. -/
def addressesFrom (index : Nat) : List SyntaxTree → List (List Nat)
  | [] => []
  | tree :: rest => (addresses tree).map (index :: ·) ++ addressesFrom (index + 1) rest

end

theorem mem_addressesFrom_iff {index : Nat} {trees : List SyntaxTree} {address : List Nat} :
    address ∈ addressesFrom index trees ↔
      ∃ place tree, trees[place]? = some tree ∧
        ∃ inner ∈ tree.addresses, address = (index + place) :: inner := by
  induction trees generalizing index with
  | nil => simp [addressesFrom]
  | cons tree rest inductionHypothesis =>
      simp only [addressesFrom, List.mem_append, List.mem_map, inductionHypothesis]
      constructor
      · rintro (⟨inner, inside, rfl⟩ | ⟨place, other, found, inner, inside, rfl⟩)
        · exact ⟨0, tree, rfl, inner, inside, rfl⟩
        · refine ⟨place + 1, other, found, inner, inside, ?_⟩
          rw [Nat.add_assoc, Nat.add_comm 1]
      · rintro ⟨place, other, found, inner, inside, rfl⟩
        cases place with
        | zero =>
            cases found
            exact .inl ⟨inner, inside, rfl⟩
        | succ place =>
            refine .inr ⟨place, other, found, inner, inside, ?_⟩
            rw [Nat.add_assoc, Nat.add_comm 1]

/-- The addresses of a tree are those where there is a construct. -/
theorem mem_addresses_iff {tree : SyntaxTree} {address : List Nat} :
    address ∈ tree.addresses ↔ ∃ found, tree.at? address = some found := by
  induction address generalizing tree with
  | nil => cases tree; simp [addresses, at?]
  | cons index rest inductionHypothesis =>
      cases tree with
      | node category named span nameIndex children =>
          simp only [addresses, List.mem_cons, reduceCtorEq, false_or, mem_addressesFrom_iff,
            Nat.zero_add, List.cons.injEq, at?, SyntaxTree.children, Option.bind_eq_some_iff]
          constructor
          · rintro ⟨_, child, here, _, inside, rfl, rfl⟩
            obtain ⟨found, there⟩ := inductionHypothesis.mp inside
            exact ⟨found, child, here, there⟩
          · rintro ⟨found, child, here, there⟩
            exact ⟨index, child, here, rest, inductionHypothesis.mpr ⟨found, there⟩, rfl, rfl⟩

mutual

/-- Addresses are listed in their lexicographic order. -/
theorem pairwise_addresses (tree : SyntaxTree) : tree.addresses.Pairwise (· < ·) := by
  cases tree with
  | node category named span nameIndex children =>
      rw [addresses, List.pairwise_cons]
      refine ⟨fun address member => ?_, pairwise_addressesFrom 0 children⟩
      obtain ⟨place, _, _, inner, _, rfl⟩ := mem_addressesFrom_iff.mp member
      exact List.nil_lt_cons (0 + place) inner

theorem pairwise_addressesFrom (index : Nat) (trees : List SyntaxTree) :
    (addressesFrom index trees).Pairwise (· < ·) := by
  cases trees with
  | nil => exact .nil
  | cons tree rest =>
      rw [addressesFrom, List.pairwise_append, List.pairwise_map]
      refine ⟨(pairwise_addresses tree).imp fun less => ?_, pairwise_addressesFrom (index + 1) rest,
        fun first firstInside second secondInside => ?_⟩
      · exact List.cons_lt_cons_iff.mpr (.inr ⟨rfl, less⟩)
      · obtain ⟨_, _, rfl⟩ := List.mem_map.mp firstInside
        obtain ⟨place, _, _, _, _, rfl⟩ := mem_addressesFrom_iff.mp secondInside
        exact List.cons_lt_cons_iff.mpr (.inl (by omega))

end

mutual

/-- The constructs at the addresses of a tree are those that the tree is listed as. -/
theorem filterMap_at?_addresses (tree : SyntaxTree) :
    tree.addresses.filterMap tree.at? = tree.preorder := by
  cases tree with
  | node category named span nameIndex children =>
      have looks (place : Nat) (inner : List Nat) :
          (node category named span nameIndex children).at? ((0 + place) :: inner) =
            children[place]?.bind (·.at? inner) := by
        simp [at?, SyntaxTree.children]
      rw [addresses, preorder, ← filterMap_addressesFrom looks]
      rfl

theorem filterMap_addressesFrom {index : Nat} {trees : List SyntaxTree}
    {look : List Nat → Option SyntaxTree}
    (looks : ∀ place inner, look ((index + place) :: inner) = trees[place]?.bind (·.at? inner)) :
    (addressesFrom index trees).filterMap look = preorderAll trees := by
  cases trees with
  | nil => rfl
  | cons tree rest =>
      have here : look ∘ (index :: ·) = tree.at? := funext fun inner => looks 0 inner
      have later (place : Nat) (inner : List Nat) :
          look ((index + 1 + place) :: inner) = rest[place]?.bind (·.at? inner) := by
        have next := looks (place + 1) inner
        rwa [Nat.add_comm place, ← Nat.add_assoc, Nat.add_comm 1 place, List.getElem?_cons_succ]
          at next
      rw [addressesFrom, preorderAll, List.filterMap_append, List.filterMap_map, here,
        filterMap_at?_addresses tree, filterMap_addressesFrom later]

end

/-- The constructs around an address, the innermost first. -/
def enclosing (root : SyntaxTree) (address : List Nat) : List SyntaxTree :=
  (List.range address.length).reverse.filterMap fun depth => root.at? (address.take depth)

/-- Around the parts of a construct there is that construct, and what is around it. -/
theorem enclosing_append_singleton {root tree : SyntaxTree} {address : List Nat}
    (found : root.at? address = some tree) (index : Nat) :
    root.enclosing (address ++ [index]) = tree :: root.enclosing address := by
  have outer (depth : Nat) (inside : depth ∈ (List.range address.length).reverse) :
      root.at? ((address ++ [index]).take depth) = root.at? (address.take depth) := by
    rw [List.take_append_of_le_length (by simpa using Nat.le_of_lt (by simpa using inside))]
  rw [enclosing, List.length_append, List.length_singleton, List.range_succ, List.reverse_append,
    List.reverse_singleton, List.singleton_append, List.filterMap_cons_some (by simpa using found),
    List.filterMap_congr outer]
  rfl

end SourceHarvest.SyntaxTree
