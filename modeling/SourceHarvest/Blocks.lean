/-!
# Cutting lists into runs

A list is cut into runs of one length, the last of which may be shorter.  The runs put
together again are the list.
-/

namespace SourceHarvest

/-- Cut a list into runs of `size + 1`; a shorter last run is kept. -/
def blocksOf {α : Type} (size : Nat) (values : List α) : List (List α) :=
  match values with
  | [] => []
  | first :: rest => (first :: rest.take size) :: blocksOf size (rest.drop size)
termination_by values.length
decreasing_by simp only [List.length_drop, List.length_cons]; omega

theorem flatten_blocksOf {α : Type} (size : Nat) (values : List α) :
    (blocksOf size values).flatten = values := by
  fun_induction blocksOf size values with
  | case1 => rfl
  | case2 first rest inductionHypothesis =>
      rw [List.flatten_cons, inductionHypothesis, List.cons_append, List.take_append_drop]

/-- No run is longer than asked for. -/
theorem length_le_of_mem_blocksOf {α : Type} {size : Nat} {values block : List α}
    (member : block ∈ blocksOf size values) : block.length ≤ size + 1 := by
  fun_induction blocksOf size values with
  | case1 => cases member
  | case2 first rest inductionHypothesis =>
      rcases List.mem_cons.mp member with head | tail
      · subst head
        simp only [List.length_cons, List.length_take]
        omega
      · exact inductionHypothesis tail

end SourceHarvest
