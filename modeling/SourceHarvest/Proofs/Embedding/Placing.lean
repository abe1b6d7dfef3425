import SourceHarvest.Embedding.OpenAI
import Mathlib.Data.List.Forall2
import Mathlib.Data.List.Perm.Subperm

/-!
# Vectors in their places

The vectors of a batch are put in the order of the places that come with them.  A vector then
stands at the very place that it came with if each place of the batch occurs exactly once.
Batches of one size are laid end to end, so a position among all texts is that of a batch and a
place in it.
-/

namespace SourceHarvest

/-! ## Runs of one length -/

section Blocks

variable {α β : Type} {size : Nat} {values : List α}

/-- Each run starts where those before it end. -/
theorem getElem?_blocksOf (size : Nat) (values : List α) (index : Nat) :
    (blocksOf size values)[index]? =
      if index * (size + 1) < values.length then
        some ((values.drop (index * (size + 1))).take (size + 1))
      else none := by
  fun_induction blocksOf size values generalizing index with
  | case1 => simp
  | case2 first rest inductionHypothesis =>
      cases index with
      | zero => simp
      | succ index =>
          have shift : (index + 1) * (size + 1) = size + index * (size + 1) + 1 := by
            rw [Nat.succ_mul]
            omega
          rw [List.getElem?_cons_succ, inductionHypothesis, shift, List.drop_succ_cons,
            List.drop_drop, List.length_drop, List.length_cons]
          congr 1
          apply propext
          omega

/-- In lists as long as the runs, laid end to end, a position is that of a run and a place in it. -/
theorem getElem?_flatten_of_blocks {parts : List (List β)}
    (fits : List.Forall₂ (fun block part => part.length = block.length)
      (blocksOf size values) parts)
    (position : Nat) :
    parts.flatten[position]? =
      parts[position / (size + 1)]?.bind fun part => part[position % (size + 1)]? := by
  fun_induction blocksOf size values generalizing position parts with
  | case1 =>
      obtain rfl := List.forall₂_nil_left_iff.mp fits
      simp
  | case2 first rest inductionHypothesis =>
      obtain ⟨part, others, length, further, rfl⟩ := List.forall₂_cons_left_iff.mp fits
      rw [List.length_cons, List.length_take] at length
      rw [List.flatten_cons]
      rcases Nat.lt_or_ge rest.length size with short | full
      · -- The run is the last one, and no position lies behind it.
        rw [List.drop_eq_nil_of_le (Nat.le_of_lt short), blocksOf] at further
        obtain rfl := List.forall₂_nil_left_iff.mp further
        rw [List.flatten_nil, List.append_nil]
        by_cases early : position < size + 1
        · rw [Nat.div_eq_of_lt early, Nat.mod_eq_of_lt early]
          rfl
        · have later : 1 ≤ position / (size + 1) :=
            Nat.div_pos (Nat.not_lt.mp early) (Nat.succ_pos size)
          have outside : part.length ≤ position := by omega
          rw [List.getElem?_eq_none outside, List.getElem?_eq_none later, Option.bind_none]
      · by_cases early : position < size + 1
        · rw [Nat.div_eq_of_lt early, Nat.mod_eq_of_lt early, List.getElem?_append_left (by omega)]
          rfl
        · have behind : size + 1 ≤ position := Nat.not_lt.mp early
          have whole : part.length = size + 1 := by omega
          rw [List.getElem?_append_right (by omega), whole, inductionHypothesis further,
            Nat.div_eq_sub_div (Nat.succ_pos size) behind, Nat.mod_eq_sub_mod behind,
            List.getElem?_cons_succ]

end Blocks

namespace OpenAI

variable {found : List Placed}

/-- The vectors of a batch with their places in order. -/
def sorted (found : List Placed) : List Placed :=
  found.mergeSort fun left right => decide (left.index ≤ right.index)

theorem sorted_perm (found : List Placed) : (sorted found).Perm found :=
  List.mergeSort_perm _ _

theorem inOrder_eq_map (found : List Placed) : inOrder found = (sorted found).map (·.embedding) :=
  rfl

theorem pairwise_sorted (found : List Placed) :
    (sorted found).Pairwise fun left right => left.index ≤ right.index := by
  have ordered : (sorted found).Pairwise
      fun left right => decide (left.index ≤ right.index) = true := by
    apply List.pairwise_mergeSort
    · intro first second third
      simp only [decide_eq_true_eq]
      exact Nat.le_trans
    · intro first second
      simp only [Bool.or_eq_true, decide_eq_true_eq]
      exact Nat.le_total _ _
  simpa only [decide_eq_true_eq] using ordered

/-- If each place of a batch occurs exactly once, the place of a vector is where it stands. -/
theorem map_index_sorted {count : Nat} (listed : (found.map (·.index)).Perm (List.range count)) :
    (sorted found).map (·.index) = List.range count := by
  apply List.Perm.eq_of_pairwise fun _ _ _ _ => Nat.le_antisymm
  · exact List.pairwise_map.mpr (pairwise_sorted found)
  · exact List.pairwise_le_range
  · exact ((sorted_perm found).map _).trans listed

theorem length_inOrder (found : List Placed) : (inOrder found).length = found.length := by
  rw [inOrder_eq_map, List.length_map, (sorted_perm found).length_eq]

/-- If each place of a batch occurs exactly once, every place has the vector that came with it. -/
theorem exists_placed_of_listed {count place : Nat}
    (listed : (found.map (·.index)).Perm (List.range count)) (inside : place < count) :
    ∃ placed ∈ found, placed.index = place ∧ (inOrder found)[place]? = some placed.embedding := by
  have standing : ((sorted found).map (·.index))[place]? = some place := by
    rw [map_index_sorted listed, List.getElem?_range inside]
  rw [List.getElem?_map] at standing
  obtain ⟨placed, there, same⟩ := Option.map_eq_some_iff.mp standing
  refine ⟨placed, (sorted_perm found).mem_iff.mp (List.mem_of_getElem? there), same, ?_⟩
  rw [inOrder_eq_map, List.getElem?_map, there, Option.map_some]

/-- Vectors with the places of their texts, in any order, are put in the order of the texts. -/
theorem inOrder_of_perm {texts : List String} {vector : String → Embedding}
    (given : found.Perm (texts.mapIdx fun place text => ⟨place, vector text⟩)) :
    inOrder found = texts.map vector := by
  have listed : (found.map (·.index)).Perm (List.range texts.length) := by
    apply (given.map (·.index)).trans
    apply List.Perm.of_eq
    apply List.ext_getElem
    · simp
    · simp
  apply List.ext_getElem?
  intro place
  rw [List.getElem?_map]
  by_cases inside : place < texts.length
  · obtain ⟨placed, member, same, there⟩ := exists_placed_of_listed listed inside
    obtain ⟨origin, bound, rfl⟩ := List.mem_mapIdx.mp (given.mem_iff.mp member)
    simp only at same
    subst same
    rw [there, List.getElem?_eq_getElem bound, Option.map_some]
  · have outside : (inOrder found).length ≤ place := by
      rw [length_inOrder, given.length_eq, List.length_mapIdx]
      exact Nat.not_lt.mp inside
    rw [List.getElem?_eq_none outside, List.getElem?_eq_none (Nat.not_lt.mp inside),
      Option.map_none]

end OpenAI

end SourceHarvest
