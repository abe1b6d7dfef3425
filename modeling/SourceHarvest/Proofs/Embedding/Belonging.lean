import SourceHarvest.Proofs.Embedding.Conversation

/-!
# Vectors that belong to their texts

The vectors of all batches are laid end to end, and none of them is counted by itself.  If a batch
gets more vectors than it has texts, and another one fewer, the number of all vectors may still be
that of all texts, while those in between stand for other texts.  So the vectors belong to their
texts if, and only if, each batch gets a vector for each place of its texts exactly once.
-/

namespace SourceHarvest

namespace OpenAI

open Http Json

variable {σ : Type} {service : OpenAI} {texts : List String} {rounds : List Round}
  {vectors : List Embedding}

/-- There is one vector for each text, the one that the round of its batch brought for its place. -/
structure Belong (service : OpenAI) (texts : List String) (rounds : List Round)
    (vectors : List Embedding) : Prop where
  count : vectors.length = texts.length
  origin : ∀ position < texts.length, ∃ round found placed,
    rounds[position / service.size]? = some round ∧ round.found? = some found ∧ placed ∈ found ∧
      placed.index = position % service.size ∧ vectors[position]? = some placed.embedding

/-- Each round that brings vectors brings one for each place of its batch. -/
def Listed (service : OpenAI) (texts : List String) (rounds : List Round) : Prop :=
  ∀ (index : Nat) (round : Round) (found : List Placed),
    rounds[index]? = some round → round.found? = some found →
    (found.map (·.index)).Perm (List.range (service.batch texts index).length)

/-- Runs that are no shorter than those of another list, and together no longer, are as long. -/
theorem forall₂_length_eq {α β : Type} {blocks : List (List α)} {parts : List (List β)}
    (longer : List.Forall₂ (fun block part => block.length ≤ part.length) blocks parts)
    (together : parts.flatten.length ≤ blocks.flatten.length) :
    List.Forall₂ (fun block part => part.length = block.length) blocks parts := by
  induction longer with
  | nil => exact .nil
  | @cons block part blocks parts here further inductionHypothesis =>
      have behind : blocks.flatten.length ≤ parts.flatten.length := by
        rw [List.length_flatten, List.length_flatten]
        apply List.Forall₂.sum_le_sum
        rwa [List.forall₂_map_left_iff, List.forall₂_map_right_iff]
      rw [List.flatten_cons, List.flatten_cons, List.length_append, List.length_append] at together
      apply List.Forall₂.cons
      · omega
      · apply inductionHypothesis
        omega

theorem length_batch (service : OpenAI) (texts : List String) (index : Nat) :
    (service.batch texts index).length =
      min service.size (texts.length - index * service.size) := by
  rw [batch, List.length_take, List.length_drop]

/-- The place of a text in its batch. -/
theorem mod_size_lt_length_batch {position : Nat} (inside : position < texts.length) :
    position % service.size < (service.batch texts (position / service.size)).length := by
  have split := Nat.div_add_mod' position service.size
  have short := Nat.mod_lt position service.size_pos
  rw [length_batch]
  omega

theorem length_flatMap_inOrder (answers : List (List Placed)) :
    (answers.flatMap inOrder).length = answers.flatten.length := by
  rw [List.length_flatMap, List.length_flatten]
  congr 1
  apply List.map_congr_left
  intro found _
  exact length_inOrder found

/-- Where the vectors belong to their texts, each place of a batch occurs in what its round
brought. -/
theorem Belong.subperm (belong : Belong service texts rounds vectors) {index : Nat} {round : Round}
    {found : List Placed} (here : rounds[index]? = some round)
    (brings : round.found? = some found) :
    (List.range (service.batch texts index).length).Subperm (found.map (·.index)) := by
  apply List.subperm_of_subset List.nodup_range
  intro place member
  have inside := List.mem_range.mp member
  rw [length_batch] at inside
  obtain ⟨other, listed, placed, there, brought, member, same, _⟩ :=
    belong.origin (index * service.size + place) (by omega)
  have short : place < service.size := by omega
  rw [Nat.mul_comm, Nat.mul_add_div service.size_pos, Nat.div_eq_of_lt short, Nat.add_zero,
    here] at there
  obtain rfl := Option.some.inj there
  obtain rfl := Option.some.inj (brings.symm.trans brought)
  rw [Nat.mul_comm, Nat.mul_add_mod, Nat.mod_eq_of_lt short] at same
  exact List.mem_map.mpr ⟨placed, member, same⟩

namespace Conversation

/-- In a call that succeeds, every round brings vectors. -/
theorem exists_found (conversation : Conversation service texts rounds (.ok vectors)) {index : Nat}
    (early : index < rounds.length) :
    ∃ round found, rounds[index]? = some round ∧ round.found? = some found := by
  have here := List.getElem?_eq_getElem early
  cases brings : rounds[index].found? with
  | some found => exact ⟨_, found, here, brings⟩
  | none =>
      obtain ⟨_, failure, failed⟩ := conversation.halting index _ here brings
      cases failed

/-- Where each place of each batch has one vector, the vectors belong to their texts. -/
theorem belong_of_listed (conversation : Conversation service texts rounds (.ok vectors))
    (listed : Listed service texts rounds) : Belong service texts rounds vectors := by
  obtain ⟨all, answers, same, rfl⟩ := conversation.answers vectors rfl
  have fits : List.Forall₂ (fun block part => part.length = block.length)
      (blocksOf (service.batchSize - 1) texts) (answers.map inOrder) := by
    rw [List.forall₂_map_right_iff]
    apply (forall₂_answers_iff same conversation all).mpr
    intro index round found here brings
    have length := (listed index round found here brings).length_eq
    rw [List.length_map, List.length_range] at length
    rw [length_inOrder, length]
  rw [List.flatMap_def]
  constructor
  · have lengths : (answers.map inOrder).map List.length =
        (blocksOf (service.batchSize - 1) texts).map List.length := by
      rw [← List.forall₂_eq_eq_eq, List.forall₂_map_left_iff, List.forall₂_map_right_iff]
      exact fits.flip
    rw [List.length_flatten, lengths, ← List.length_flatten, flatten_blocksOf]
  · intro position inside
    have early : position / service.size < rounds.length := by
      rw [Nat.div_lt_iff_lt_mul service.size_pos]
      exact Nat.lt_of_lt_of_le inside all
    obtain ⟨round, found, here, brings⟩ := conversation.exists_found early
    obtain ⟨placed, member, place, stands⟩ := exists_placed_of_listed
      (listed _ round found here brings) (mod_size_lt_length_batch inside)
    refine ⟨round, found, placed, here, brings, member, place, ?_⟩
    rw [getElem?_flatten_of_blocks fits, batchSize_sub_one_add_one, List.getElem?_map,
      (getElem?_answers_iff same).mpr ⟨round, here, brings⟩, Option.map_some, Option.bind_some,
      stands]

/-- Where the vectors belong to their texts, each place of each batch has one. -/
theorem listed_of_belong (conversation : Conversation service texts rounds (.ok vectors))
    (belong : Belong service texts rounds vectors) : Listed service texts rounds := by
  obtain ⟨all, answers, same, rfl⟩ := conversation.answers vectors rfl
  -- No batch gets too few vectors, and there are as many as texts, so none gets too many either.
  have fits : List.Forall₂ (fun block part => part.length = block.length)
      (blocksOf (service.batchSize - 1) texts) answers := by
    apply forall₂_length_eq
    · apply (forall₂_answers_iff same conversation all).mpr
      intro index round found here brings
      simpa using (belong.subperm here brings).length_le
    · rw [flatten_blocksOf, ← belong.count, length_flatMap_inOrder]
  intro index round found here brings
  have length := (forall₂_answers_iff same conversation all).mp fits index round found here brings
  apply List.Perm.symm
  apply (belong.subperm here brings).perm_of_length_le
  rw [List.length_map, List.length_range, length]

end Conversation

/-- The vectors that a call gives belong to their texts if, and only if, each batch got one vector
for each place of its texts. -/
theorem vectors_belong_iff_listed (service : OpenAI) (transport : Transport σ) (texts : List String)
    (state : σ) {vectors : List Embedding}
    (succeeded : ((service.embedBatch transport texts).run state).1 = .ok vectors) :
    ∃ rounds next, (service.embedBatch (recorded transport) texts).run (state, []) =
        (.ok vectors, next, rounds.flatMap Round.transfers) ∧
      Conversation service texts rounds (.ok vectors) ∧
      (Belong service texts rounds vectors ↔ Listed service texts rounds) := by
  obtain ⟨rounds, result, next, plain, again, conversation⟩ :=
    exists_conversation service transport texts state
  rw [plain] at succeeded
  simp only at succeeded
  subst succeeded
  exact ⟨rounds, next, again, conversation, conversation.listed_of_belong,
    conversation.belong_of_listed⟩

end OpenAI

namespace Small

open Http Json OpenAI

/-- A service that takes one text at a time. -/
def singles : OpenAI :=
  { key := "sk-test", model := "text-embedding-3-small", batchSize := 1 }

/-- The first reply has a vector too many, and the second none. -/
def uneven : ReplyQueue :=
  { ready := [.reply (listing [(0, 1), (1, 2)]), .reply (listing [])], requests := [] }

/-- The round of the first text. -/
def surplus : Round where
  request :=
    { method := "POST"
      url := endpoint
      authorization := some "Bearer sk-test"
      body := Value.compact
        (.object [("model", .text "text-embedding-3-small"), ("input", .array [.text "a"])]) }
  deferrals := []
  last := some (listing [(0, 1), (1, 2)])

theorem found?_surplus : surplus.found? = some [⟨0, vectorOf 1⟩, ⟨1, vectorOf 2⟩] := by
  decide +kernel

theorem outcome_surplus : surplus.outcome = .ok [vectorOf 1, vectorOf 2] := by
  apply Round.outcome_eq_ok_iff.mpr
  refine ⟨_, found?_surplus, ?_⟩
  rw [inOrder, List.mergeSort_of_pairwise (by simp)]
  rfl

theorem request_surplus : singles.request ["a"] = .ok surplus.request :=
  rfl

theorem embedBatch_uneven :
    ((singles.embedBatch ReplyQueue.transport ["a", "b"]).run uneven).1 =
      .ok [vectorOf 1, vectorOf 2] := by
  have first := embedOnce_of_round singles ReplyQueue.transport ["a"] uneven request_surplus rfl
  rw [outcome_surplus] at first
  have batches : blocksOf (singles.batchSize - 1) ["a", "b"] = [["a"], ["b"]] := by
    decide +kernel
  rw [embedBatch, batches, run_map (run_mapM_cons_of_ok first rfl)]
  decide +kernel

/-- Two texts get two vectors, but the second text has that of another place. -/
theorem vectors_belong_iff_listed_uneven :
    ∃ (rounds : List Round) (next : ReplyQueue),
      (singles.embedBatch (recorded ReplyQueue.transport) ["a", "b"]).run (uneven, []) =
        (.ok [vectorOf 1, vectorOf 2], next, rounds.flatMap Round.transfers) ∧
      ¬ Listed singles ["a", "b"] rounds ∧
      ¬ Belong singles ["a", "b"] rounds [vectorOf 1, vectorOf 2] := by
  obtain ⟨rounds, next, again, conversation, belong⟩ :=
    vectors_belong_iff_listed singles ReplyQueue.transport ["a", "b"] uneven embedBatch_uneven
  obtain ⟨other, _, apart, log⟩ : ∃ other, singles.request ["b"] = .ok other ∧
      surplus.request ≠ other ∧
      ((singles.embedBatch (recorded ReplyQueue.transport) ["a", "b"]).run (uneven, [])).2.2 =
        [⟨surplus.request, surplus.last⟩, ⟨other, some (listing [])⟩] := by
    exact ⟨_, rfl, by decide +kernel, by decide +kernel⟩
  rw [again] at log
  simp only at log
  have missing : ¬ Listed singles ["a", "b"] rounds := by
    intro listed
    have early : 0 < rounds.length := by
      have all : 2 ≤ rounds.length * 1 := (conversation.answers _ rfl).1
      omega
    have here := List.getElem?_eq_getElem early
    obtain ⟨request, asked, member⟩ := conversation.mem_transfers here
    obtain rfl := Except.ok.inj (request_surplus.symm.trans asked)
    rw [log] at member
    simp only [List.mem_cons, Transfer.mk.injEq, true_and, apart, false_and, List.not_mem_nil,
      or_false] at member
    -- This batch has one text and has got two vectors.
    have brings : rounds[0].found? = surplus.found? := by
      rw [Round.found?, member, Round.found?]
    cases (listed 0 _ _ here (brings.trans found?_surplus)).length_eq
  exact ⟨rounds, next, again, missing, fun held => missing (belong.mp held)⟩

end Small

end SourceHarvest
