import SourceHarvest.Http.Script
import SourceHarvest.Proofs.Embedding.Placing
import SourceHarvest.Proofs.Embedding.Rounds
import Mathlib.Algebra.Order.BigOperators.Group.List
import Mathlib.Algebra.Order.Ring.Nat

/-!
# The conversation of a call

The texts of a call go over the transport in batches, one round for each of them.  How many texts
a batch has, and how often the service says that there are too many requests, makes no difference
to what a call gives, as long as every batch gets the vectors of its texts.
-/

namespace SourceHarvest

namespace OpenAI

open Http Json

variable {σ : Type}

/-- How many texts go into one request; at least one. -/
def size (service : OpenAI) : Nat :=
  max service.batchSize 1

/-- The texts of one batch. -/
def batch (service : OpenAI) (texts : List String) (index : Nat) : List String :=
  (texts.drop (index * service.size)).take service.size

/-- What goes over the transport in a call for texts, and what the call comes to. -/
structure Conversation (service : OpenAI) (texts : List String) (rounds : List Round)
    (result : Except Failure (List Embedding)) : Prop where
  /-- Each batch has its round, in the order of the batches. -/
  inTurn : ∀ index round, rounds[index]? = some round →
    service.batch texts index ≠ [] ∧
      service.request (service.batch texts index) = .ok round.request ∧
      round.Proper greatestRetries
  /-- A round that brings no vectors is the last one, and the call fails. -/
  halting : ∀ index round, rounds[index]? = some round → round.found? = none →
    index + 1 = rounds.length ∧ ∃ failure, result = .error failure
  /-- A call that succeeds has been through all batches, and gives what each of them brought. -/
  answers : ∀ vectors, result = .ok vectors → texts.length ≤ rounds.length * service.size ∧
    ∃ answers : List (List Placed),
      rounds.map Round.found? = answers.map some ∧ vectors = answers.flatMap inOrder
  /-- A call that fails does so by its last round, unless no request can be sent at all. -/
  fails : ∀ failure, result = .error failure →
    (∃ round, rounds.getLast? = some round ∧ round.outcome = .error failure) ∨
      (rounds = [] ∧ isHeaderValue ("Bearer " ++ service.key) = false)

section Batches

variable {service : OpenAI} {texts : List String} {rounds : List Round}
  {result : Except Failure (List Embedding)}

theorem size_pos (service : OpenAI) : 0 < service.size :=
  Nat.le_max_right _ _

theorem batchSize_sub_one_add_one (service : OpenAI) :
    service.batchSize - 1 + 1 = service.size := by
  rw [size]
  omega

theorem getElem?_batches (service : OpenAI) (texts : List String) (index : Nat) :
    (blocksOf (service.batchSize - 1) texts)[index]? =
      if index * service.size < texts.length then some (service.batch texts index) else none := by
  rw [getElem?_blocksOf, batchSize_sub_one_add_one, batch]

theorem batch_ne_nil_iff {index : Nat} :
    service.batch texts index ≠ [] ↔ index * service.size < texts.length := by
  have positive := service.size_pos
  rw [batch, ← List.length_pos_iff, List.length_take, List.length_drop]
  omega

theorem Rounds.conversation {vectors : Except Failure (List (List Embedding))}
    (course : Rounds service (blocksOf (service.batchSize - 1) texts) rounds vectors) :
    Conversation service texts rounds (List.flatten <$> vectors) := by
  constructor
  · intro index round here
    obtain ⟨block, there, sent, proper⟩ := course.inTurn here
    rw [getElem?_batches] at there
    split at there
    · rename_i inside
      obtain rfl := Option.some.inj there
      exact ⟨batch_ne_nil_iff.mpr inside, sent, proper⟩
    · cases there
  · intro index round here missing
    obtain ⟨last, failure, rfl⟩ := course.halting here missing
    exact ⟨last, failure, rfl⟩
  · intro flat succeeded
    cases vectors with
    | error failure => cases succeeded
    | ok parts =>
        obtain rfl := Except.ok.inj succeeded
        obtain ⟨length, answers, same, rfl⟩ := course.answers rfl
        refine ⟨?_, answers, same, List.flatMap_def.symm⟩
        have ended : (blocksOf (service.batchSize - 1) texts)[rounds.length]? = none :=
          List.getElem?_eq_none (Nat.le_of_eq length.symm)
        rw [getElem?_batches] at ended
        split at ended
        · cases ended
        · exact Nat.not_lt.mp ‹_›
  · intro failure failed
    cases vectors with
    | ok parts => cases failed
    | error reason =>
        obtain rfl := Except.error.inj failed
        exact course.fails rfl

/-- Every call goes through the rounds of its batches in order, and a record of them changes
nothing. -/
theorem exists_conversation (service : OpenAI) (transport : Transport σ) (texts : List String)
    (state : σ) :
    ∃ rounds result next, (service.embedBatch transport texts).run state = (result, next) ∧
      (service.embedBatch (recorded transport) texts).run (state, []) =
        (result, next, rounds.flatMap Round.transfers) ∧
      Conversation service texts rounds result := by
  obtain ⟨rounds, vectors, next, course, plain, again⟩ :=
    exists_rounds service transport (blocksOf (service.batchSize - 1) texts) state []
  exact ⟨rounds, _, next, run_map plain, run_map again, course.conversation⟩

namespace Conversation

/-- The last request of a round is that for its batch, and is among all that were sent. -/
theorem mem_transfers (conversation : Conversation service texts rounds result) {index : Nat}
    {round : Round} (here : rounds[index]? = some round) :
    ∃ request, service.request (service.batch texts index) = .ok request ∧
      (⟨request, round.last⟩ : Transfer) ∈ rounds.flatMap Round.transfers := by
  refine ⟨round.request, (conversation.inTurn index round here).2.1, ?_⟩
  apply List.mem_flatMap_of_mem (List.mem_of_getElem? here)
  exact List.mem_append_right _ List.mem_cons_self

/-- No more rounds than batches. -/
theorem length_rounds (conversation : Conversation service texts rounds result) :
    rounds.length ≤ (texts.length + service.size - 1) / service.size := by
  cases ended : rounds.length with
  | zero => exact Nat.zero_le _
  | succ index =>
      have inside : index < rounds.length := by omega
      have nonempty := (conversation.inTurn index _ (List.getElem?_eq_getElem inside)).1
      have early := batch_ne_nil_iff.mp nonempty
      rw [Nat.le_div_iff_mul_le service.size_pos, Nat.succ_mul]
      omega

/-- At most four requests for each batch. -/
theorem length_transfers (conversation : Conversation service texts rounds result) :
    (rounds.flatMap Round.transfers).length ≤
      4 * ((texts.length + service.size - 1) / service.size) := by
  have each : ∀ count ∈ rounds.map (·.transfers.length), count ≤ greatestRetries + 1 := by
    intro count member
    obtain ⟨round, there, rfl⟩ := List.mem_map.mp member
    obtain ⟨index, here⟩ := List.mem_iff_getElem?.mp there
    rw [Round.length_transfers]
    exact Nat.succ_le_succ (conversation.inTurn index round here).2.2.bounded
  calc (rounds.flatMap Round.transfers).length
    _ = (rounds.map (·.transfers.length)).sum := List.length_flatMap
    _ ≤ (rounds.map (·.transfers.length)).length * (greatestRetries + 1) := by
        simpa using List.sum_le_card_nsmul _ _ each
    _ = 4 * rounds.length := by rw [List.length_map, Nat.mul_comm, greatestRetries]
    _ ≤ 4 * ((texts.length + service.size - 1) / service.size) :=
        Nat.mul_le_mul_left 4 conversation.length_rounds

theorem getElem?_batches_of_round (conversation : Conversation service texts rounds result)
    {index : Nat} {round : Round} (here : rounds[index]? = some round) :
    (blocksOf (service.batchSize - 1) texts)[index]? = some (service.batch texts index) := by
  have nonempty := (conversation.inTurn index round here).1
  rw [getElem?_batches, if_pos (batch_ne_nil_iff.mp nonempty)]

theorem length_batches (conversation : Conversation service texts rounds result)
    (all : texts.length ≤ rounds.length * service.size) :
    (blocksOf (service.batchSize - 1) texts).length = rounds.length := by
  apply Nat.le_antisymm
  · apply List.getElem?_eq_none_iff.mp
    rw [getElem?_batches, if_neg (Nat.not_lt.mpr all)]
  · apply Nat.le_of_not_lt
    intro fewer
    have there := conversation.getElem?_batches_of_round (List.getElem?_eq_getElem fewer)
    rw [List.getElem?_eq_none (Nat.le_refl _)] at there
    cases there

section Answers

variable {answers : List (List Placed)} (same : rounds.map Round.found? = answers.map some)

include same

theorem getElem?_answers_iff {index : Nat} {found : List Placed} :
    answers[index]? = some found ↔
      ∃ round, rounds[index]? = some round ∧ round.found? = some found := by
  have here : rounds[index]?.map Round.found? = answers[index]?.map some := by
    rw [← List.getElem?_map, same, List.getElem?_map]
  rw [← Option.map_eq_some_iff, here, Option.map_eq_some_iff]
  simp

/-- What holds of each batch and what its round brought holds of them in turn. -/
theorem forall₂_answers_iff {relation : List String → List Placed → Prop}
    (conversation : Conversation service texts rounds result)
    (all : texts.length ≤ rounds.length * service.size) :
    List.Forall₂ relation (blocksOf (service.batchSize - 1) texts) answers ↔
      ∀ index round found, rounds[index]? = some round → round.found? = some found →
        relation (service.batch texts index) found := by
  have batches := conversation.length_batches all
  have count : rounds.length = answers.length := by
    simpa using congrArg List.length same
  rw [List.forall₂_iff_get]
  constructor
  · rintro ⟨_, holds⟩ index round found here brings
    obtain ⟨early, block⟩ :=
      List.getElem?_eq_some_iff.mp (conversation.getElem?_batches_of_round here)
    obtain ⟨inside, part⟩ :=
      List.getElem?_eq_some_iff.mp ((getElem?_answers_iff same).mpr ⟨round, here, brings⟩)
    have related := holds index early inside
    rwa [List.get_eq_getElem, List.get_eq_getElem, block, part] at related
  · intro holds
    refine ⟨batches.trans count, ?_⟩
    intro index early inside
    obtain ⟨round, here, brings⟩ :=
      (getElem?_answers_iff same).mp (List.getElem?_eq_getElem inside)
    obtain ⟨_, block⟩ :=
      List.getElem?_eq_some_iff.mp (conversation.getElem?_batches_of_round here)
    rw [List.get_eq_getElem, List.get_eq_getElem, block]
    exact holds index round _ here brings

end Answers

/-- If each round brings the vectors of its texts, in any order, the call gives those of all texts
in their order. -/
theorem eq_map {vector : String → Embedding} {vectors : List Embedding}
    (conversation : Conversation service texts rounds result) (succeeded : result = .ok vectors)
    (given : ∀ (index : Nat) (round : Round) (found : List Placed),
      rounds[index]? = some round → round.found? = some found →
      found.Perm ((service.batch texts index).mapIdx fun place text => ⟨place, vector text⟩)) :
    vectors = texts.map vector := by
  obtain ⟨all, answers, same, rfl⟩ := conversation.answers vectors succeeded
  have inTurn : List.Forall₂ (fun block found => block.map vector = inOrder found)
      (blocksOf (service.batchSize - 1) texts) answers := by
    apply (forall₂_answers_iff same conversation all).mpr
    intro index round found here brings
    exact (inOrder_of_perm (given index round found here brings)).symm
  have blocks : (blocksOf (service.batchSize - 1) texts).map (List.map vector) =
      answers.map inOrder := by
    rw [← List.forall₂_eq_eq_eq, List.forall₂_map_left_iff, List.forall₂_map_right_iff]
    exact inTurn
  rw [List.flatMap_def, ← blocks, ← List.map_flatten, flatten_blocksOf]

end Conversation

end Batches

/-- A call sends its batches in order, each of them again only after a reply that there are too many
requests and at most three times, and ends with the first batch that gets no vectors.  If all
replies that say that all is well have the vectors of their texts, in any order, the call gives the
vectors of all texts in order, unless its last reply says something else. -/
theorem rounds_map_texts_in_order (service : OpenAI) (transport : Transport σ) (texts : List String)
    (state : σ) :
    ∃ rounds result next, (service.embedBatch transport texts).run state = (result, next) ∧
      (service.embedBatch (recorded transport) texts).run (state, []) =
        (result, next, rounds.flatMap Round.transfers) ∧
      Conversation service texts rounds result ∧
      (rounds.flatMap Round.transfers).length ≤
        4 * ((texts.length + service.size - 1) / service.size) ∧
      ∀ vector : String → Embedding,
        (∀ index round reply, rounds[index]? = some round → round.last = some reply →
          reply.isSuccess = true →
          ∃ found, (Document.ofText? reply.body).bind readReply? = some found ∧
            found.Perm
              ((service.batch texts index).mapIdx fun place text => ⟨place, vector text⟩)) →
        result = .ok (texts.map vector) ∨
          ∃ failure, result = .error failure ∧
            (isHeaderValue ("Bearer " ++ service.key) = false ∨
              ∃ round, rounds.getLast? = some round ∧
                ∀ reply, round.last = some reply → reply.isSuccess = false) := by
  obtain ⟨rounds, result, next, plain, again, conversation⟩ :=
    exists_conversation service transport texts state
  refine ⟨rounds, result, next, plain, again, conversation, conversation.length_transfers, ?_⟩
  intro vector given
  cases result with
  | ok vectors =>
      left
      apply congrArg Except.ok
      apply conversation.eq_map rfl
      intro index round found here brings
      obtain ⟨reply, last, decoded⟩ := Option.bind_eq_some_iff.mp brings
      split at decoded
      · obtain ⟨other, same, placed⟩ := given index round reply here last ‹_›
        obtain rfl := Option.some.inj (decoded.symm.trans same)
        exact placed
      · cases decoded
  | error failure =>
      right
      refine ⟨failure, rfl, ?_⟩
      rcases conversation.fails failure rfl with ⟨round, ends, fails⟩ | ⟨_, unusable⟩
      · right
        refine ⟨round, ends, ?_⟩
        intro reply last
        by_contra success
        rw [Bool.not_eq_false] at success
        rw [List.getLast?_eq_getElem?] at ends
        obtain ⟨found, decoded, _⟩ := given _ round reply ends last success
        rw [Round.outcome, last] at fails
        simp only [success, if_true, decoded] at fails
        cases fails
      · left
        exact unusable

end OpenAI

namespace Small

open Http Json OpenAI

/-- A vector with one number. -/
def vectorOf (value : Nat) : Embedding :=
  ⟨[Numeric.Format.single.ofNat value]⟩

/-- A reply that lists places and the numbers of their vectors. -/
def listing (found : List (Nat × Nat)) : HttpReply :=
  { status := 200
    body := Value.compact (.object [("data", .array (found.map fun one =>
      .object [("index", .ofNat one.1), ("embedding", .array [.ofNat one.2])]))]) }

/-- A service that takes two texts at a time. -/
def pairs : OpenAI :=
  { key := "sk-test", model := "text-embedding-3-small", batchSize := 2 }

/-- There are too many requests at first, and then the replies are out of order. -/
def hesitant : ReplyQueue :=
  { ready := [.reply ⟨tooManyRequests, ""⟩, .reply (listing [(1, 2), (0, 1)]),
      .reply (listing [(0, 3)])]
    requests := [] }

/-- The vectors of three texts come in two batches, the first of which is sent again. -/
theorem rounds_map_texts_in_order_hesitant :
    ∃ (rounds : List Round) (next : ReplyQueue),
      (pairs.embedBatch (recorded ReplyQueue.transport) ["a", "bb", "ccc"]).run (hesitant, []) =
        (.ok [vectorOf 1, vectorOf 2, vectorOf 3], next, rounds.flatMap Round.transfers) ∧
      (rounds.flatMap Round.transfers).map (·.reply.map (·.status)) =
        [some 429, some 200, some 200] := by
  obtain ⟨rounds, result, next, plain, again, conversation, _, maps⟩ :=
    rounds_map_texts_in_order pairs ReplyQueue.transport ["a", "bb", "ccc"] hesitant
  obtain ⟨first, second, sent, further, apart, log⟩ : ∃ first second,
      pairs.request ["a", "bb"] = .ok first ∧ pairs.request ["ccc"] = .ok second ∧ first ≠ second ∧
      ((pairs.embedBatch (recorded ReplyQueue.transport) ["a", "bb", "ccc"]).run
        (hesitant, [])).2.2 =
          [⟨first, some ⟨tooManyRequests, ""⟩⟩, ⟨first, some (listing [(1, 2), (0, 1)])⟩,
            ⟨second, some (listing [(0, 3)])⟩] := by
    exact ⟨_, _, rfl, rfl, by decide +kernel, by decide +kernel⟩
  rw [again] at log
  simp only at log
  have given (index : Nat) (round : Round) (reply : HttpReply) (here : rounds[index]? = some round)
      (last : round.last = some reply) (success : reply.isSuccess = true) :
      ∃ found, (Document.ofText? reply.body).bind readReply? = some found ∧
        found.Perm ((pairs.batch ["a", "bb", "ccc"] index).mapIdx fun place text =>
          ⟨place, vectorOf text.length⟩) := by
    obtain ⟨request, asked, member⟩ := conversation.mem_transfers here
    rw [log, last] at member
    have inside := batch_ne_nil_iff.mp (conversation.inTurn index round here).1
    match index with
    | 0 =>
        obtain rfl := Except.ok.inj (sent.symm.trans asked)
        simp only [List.mem_cons, Transfer.mk.injEq, true_and, apart, false_and, List.not_mem_nil,
          or_false, Option.some.injEq] at member
        rcases member with rfl | rfl
        · cases success
        · exact ⟨_, by decide +kernel, .swap _ _ _⟩
    | 1 =>
        obtain rfl := Except.ok.inj (further.symm.trans asked)
        simp only [List.mem_cons, Transfer.mk.injEq, true_and, apart.symm, false_and,
          List.not_mem_nil, or_false, false_or, Option.some.injEq] at member
        obtain rfl := member
        exact ⟨_, by decide +kernel, .refl _⟩
    | index + 2 =>
        have few : (index + 2) * 2 < 3 := inside
        omega
  rcases maps (fun text => vectorOf text.length) given with rfl | ⟨failure, rfl, _⟩
  · exact ⟨rounds, next, again, by rw [log]; rfl⟩
  · have succeeded : ((pairs.embedBatch ReplyQueue.transport ["a", "bb", "ccc"]).run
        hesitant).1.isOk = true := by decide +kernel
    rw [plain] at succeeded
    cases succeeded

end Small

end SourceHarvest
