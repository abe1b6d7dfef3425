import SourceHarvest.Embedding.OpenAI
import SourceHarvest.Proofs.Http.Transfers
import Mathlib.Data.List.Basic

/-!
# Rounds of requests

All that goes over a transport for the sake of one batch is a round: the same request is sent
again after every reply that there are too many requests, until another reply comes, none comes or
no retry is left.  A call goes through the rounds of its batches in order, and the first round that
brings no vectors is its last.
-/

namespace SourceHarvest

namespace OpenAI

open Http Json

variable {σ : Type}

/-- One request with the replies that there are too many, and what came back at last. -/
structure Round where
  request : HttpRequest
  deferrals : List HttpReply
  last : Option HttpReply
deriving DecidableEq, Repr

namespace Round

/-- What went over the transport in a round. -/
def transfers (round : Round) : List Transfer :=
  round.deferrals.map (fun reply => ⟨round.request, some reply⟩) ++ [⟨round.request, round.last⟩]

/-- The vectors that a round brings, if it ends in a reply that has some. -/
def found? (round : Round) : Option (List Placed) :=
  round.last.bind fun reply =>
    if reply.isSuccess then (Document.ofText? reply.body).bind readReply? else none

/-- A request is sent again after replies that there are too many, after each of them and after no
other reply, as long as retries are left. -/
structure Proper (round : Round) (retries : Nat) : Prop where
  deferred : ∀ reply ∈ round.deferrals, reply.status = tooManyRequests
  bounded : round.deferrals.length ≤ retries
  settled : ∀ reply, round.last = some reply → reply.status = tooManyRequests →
    round.deferrals.length = retries

theorem length_transfers (round : Round) :
    round.transfers.length = round.deferrals.length + 1 := by
  rw [transfers, List.length_append, List.length_map, List.length_singleton]

end Round

/-- What a round comes to: the vectors in the order of their places, or a failure that says what the
last reply was. -/
def Round.outcome (round : Round) : Except Failure (List Embedding) :=
  match round.last with
  | none =>
      .error ((Obstacle.noReply round.request.url).failure
        "Failed to send embedding request to OpenAI")
  | some reply =>
      if reply.isSuccess then
        match (Document.ofText? reply.body).bind readReply? with
        | some found => .ok (inOrder found)
        | none => .error (Failure.ofMessage "Failed to decode OpenAI embedding response")
      else
        .error (Failure.ofMessage
          s!"OpenAI embedding API error ({reply.statusText}): {reply.words}")

theorem Round.outcome_eq_ok_iff {round : Round} {vectors : List Embedding} :
    round.outcome = .ok vectors ↔ ∃ found, round.found? = some found ∧ vectors = inOrder found := by
  rw [outcome, found?]
  cases round.last with
  | none => simp
  | some reply =>
      simp only [Option.bind_some]
      split
      · cases (Document.ofText? reply.body).bind readReply? with
        | none => simp
        | some found => simp [eq_comm]
      · simp

/-- Sending a request is a round, and a record of it changes nothing. -/
theorem exists_round (transport : Transport σ) (request : HttpRequest) (retries : Nat) (state : σ)
    (log : List Transfer) :
    ∃ round : Round, round.request = request ∧ round.Proper retries ∧
      (sendUpTo transport request retries state).1 = round.last ∧
      sendUpTo (recorded transport) request retries (state, log) =
        (round.last, (sendUpTo transport request retries state).2, log ++ round.transfers) := by
  induction retries generalizing state log with
  | zero =>
      refine ⟨⟨request, [], (transport request state).1⟩, rfl, ?_, rfl, rfl⟩
      constructor
      · simp
      · exact Nat.le_refl 0
      · intros
        rfl
  | succ retries inductionHypothesis =>
      cases sent : transport request state with
      | mk reply next =>
          have logged : recorded transport request (state, log) =
              (reply, next, log ++ [⟨request, reply⟩]) := by
            rw [recorded, sent]
          -- A reply of another kind, or none, ends the round at once.
          have settled (other : ∀ answer, reply = some answer → answer.status ≠ tooManyRequests) :
              (⟨request, [], reply⟩ : Round).Proper (retries + 1) := by
            constructor
            · simp
            · exact Nat.zero_le _
            · intro answer same deferring
              exact absurd deferring (other answer same)
          cases reply with
          | none =>
              refine ⟨⟨request, [], none⟩, rfl, settled (by simp), ?_, ?_⟩
              · simp only [sendUpTo, sent]
              · simp only [sendUpTo, sent, logged]
                rfl
          | some answer =>
              by_cases deferring : answer.status = tooManyRequests
              · obtain ⟨round, same, proper, plain, again⟩ :=
                  inductionHypothesis next (log ++ [⟨request, some answer⟩])
                refine ⟨{ round with deferrals := answer :: round.deferrals }, same, ?_, ?_, ?_⟩
                · constructor
                  · exact List.forall_mem_cons.mpr ⟨deferring, proper.deferred⟩
                  · exact Nat.succ_le_succ proper.bounded
                  · intro reply last refused
                    exact congrArg Nat.succ (proper.settled reply last refused)
                · simp only [sendUpTo, sent, deferring, if_true, plain]
                · simp only [sendUpTo, sent, logged, deferring, if_true, again,
                    Round.transfers, same]
                  simp
              · refine ⟨⟨request, [], some answer⟩, rfl, settled (by simpa using deferring), ?_, ?_⟩
                · simp only [sendUpTo, sent, deferring, if_false]
                · simp only [sendUpTo, sent, logged, deferring, if_false]
                  rfl

section Once

variable (service : OpenAI) (transport : Transport σ) (texts : List String) (state : σ)

theorem embedOnce_of_obstacle {obstacle : Obstacle}
    (unsent : service.request texts = .error obstacle) :
    (service.embedOnce transport texts).run state =
      (.error (obstacle.failure "Failed to send embedding request to OpenAI"), state) := by
  have halted : (service.send transport texts).run state =
      (.error (obstacle.failure "Failed to send embedding request to OpenAI"), state) := by
    rw [send, sendOver, unsent]
    rfl
  exact run_bind_of_error halted

theorem embedOnce_of_round {round : Round} {next : σ}
    (sent : service.request texts = .ok round.request)
    (came : sendUpTo transport round.request greatestRetries state = (round.last, next)) :
    (service.embedOnce transport texts).run state = (round.outcome, next) := by
  rw [embedOnce, send, sent, Round.outcome]
  cases last : round.last with
  | none =>
      rw [last] at came
      exact run_bind_of_error (run_sendOver_of_none came _)
  | some reply =>
      rw [last] at came
      rw [run_bind_of_ok (run_sendOver_of_reply came _)]
      by_cases success : reply.isSuccess = true
      · simp only [success, if_true, decode]
        cases (Document.ofText? reply.body).bind readReply? <;> rfl
      · simp only [success]
        rfl

end Once

/-- The rounds of a call with batches in order, and what the call comes to. -/
inductive Rounds (service : OpenAI) :
    List (List String) → List Round → Except Failure (List (List Embedding)) → Prop where
  | done : Rounds service [] [] (.ok [])
  | unsent {texts : List String} {rest : List (List String)} {obstacle : Obstacle}
      (unsent : service.request texts = .error obstacle) :
      Rounds service (texts :: rest) []
        (.error (obstacle.failure "Failed to send embedding request to OpenAI"))
  | failed {texts : List String} {rest : List (List String)} {round : Round} {failure : Failure}
      (sent : service.request texts = .ok round.request) (proper : round.Proper greatestRetries)
      (fails : round.outcome = .error failure) :
      Rounds service (texts :: rest) [round] (.error failure)
  | answered {texts : List String} {rest : List (List String)} {round : Round}
      {rounds : List Round} {vectors : List Embedding}
      {result : Except Failure (List (List Embedding))}
      (sent : service.request texts = .ok round.request) (proper : round.Proper greatestRetries)
      (gives : round.outcome = .ok vectors) (further : Rounds service rest rounds result) :
      Rounds service (texts :: rest) (round :: rounds) ((vectors :: ·) <$> result)

/-- Every call goes through the rounds of its batches, and a record of them changes nothing. -/
theorem exists_rounds (service : OpenAI) (transport : Transport σ) (batches : List (List String))
    (state : σ) (log : List Transfer) :
    ∃ rounds result next, Rounds service batches rounds result ∧
      (batches.mapM (service.embedOnce transport)).run state = (result, next) ∧
      (batches.mapM (service.embedOnce (recorded transport))).run (state, log) =
        (result, next, log ++ rounds.flatMap Round.transfers) := by
  induction batches generalizing state log with
  | nil =>
      refine ⟨[], .ok [], state, .done, rfl, ?_⟩
      simp
      rfl
  | cons texts rest inductionHypothesis =>
      cases sent : service.request texts with
      | error obstacle =>
          refine ⟨[], _, state, .unsent sent, ?_, ?_⟩
          · exact run_mapM_cons_of_error (embedOnce_of_obstacle service transport texts state sent)
          · rw [List.flatMap_nil, List.append_nil]
            exact run_mapM_cons_of_error
              (embedOnce_of_obstacle service (recorded transport) texts (state, log) sent)
      | ok request =>
          obtain ⟨round, rfl, proper, last, logged⟩ :=
            exists_round transport request greatestRetries state log
          have plain := embedOnce_of_round service transport texts state sent (Prod.ext last rfl)
          have again :=
            embedOnce_of_round service (recorded transport) texts (state, log) sent logged
          cases came : round.outcome with
          | error failure =>
              rw [came] at plain again
              refine ⟨[round], _, _, .failed sent proper came, run_mapM_cons_of_error plain, ?_⟩
              rw [List.flatMap_singleton]
              exact run_mapM_cons_of_error again
          | ok vectors =>
              rw [came] at plain again
              obtain ⟨rounds, result, next, further, plainRest, againRest⟩ := inductionHypothesis
                (sendUpTo transport round.request greatestRetries state).2 (log ++ round.transfers)
              refine ⟨round :: rounds, _, next, .answered sent proper came further,
                run_mapM_cons_of_ok plain plainRest, ?_⟩
              rw [List.flatMap_cons, ← List.append_assoc]
              exact run_mapM_cons_of_ok again againRest

section Course

variable {service : OpenAI} {batches : List (List String)} {rounds : List Round}
  {result : Except Failure (List (List Embedding))}

theorem Rounds.inTurn (course : Rounds service batches rounds result) {index : Nat} {round : Round}
    (here : rounds[index]? = some round) :
    ∃ texts, batches[index]? = some texts ∧ service.request texts = .ok round.request ∧
      round.Proper greatestRetries := by
  induction course generalizing index with
  | done => simp at here
  | unsent => simp at here
  | failed sent proper fails =>
      cases index with
      | zero =>
          obtain rfl := Option.some.inj here
          exact ⟨_, rfl, sent, proper⟩
      | succ index => simp at here
  | answered sent proper gives further inductionHypothesis =>
      cases index with
      | zero =>
          obtain rfl := Option.some.inj here
          exact ⟨_, rfl, sent, proper⟩
      | succ index => exact inductionHypothesis here

/-- A round that brings no vectors is the last one. -/
theorem Rounds.halting (course : Rounds service batches rounds result) {index : Nat} {round : Round}
    (here : rounds[index]? = some round) (missing : round.found? = none) :
    index + 1 = rounds.length ∧ ∃ failure, result = .error failure := by
  induction course generalizing index with
  | done => simp at here
  | unsent => simp at here
  | failed sent proper fails =>
      cases index with
      | zero => exact ⟨rfl, _, rfl⟩
      | succ index => simp at here
  | answered sent proper gives further inductionHypothesis =>
      cases index with
      | zero =>
          obtain rfl := Option.some.inj here
          obtain ⟨found, given, _⟩ := Round.outcome_eq_ok_iff.mp gives
          rw [missing] at given
          cases given
      | succ index =>
          obtain ⟨last, failure, rfl⟩ := inductionHypothesis here
          exact ⟨congrArg Nat.succ last, failure, rfl⟩

/-- A call that succeeds has a round for each batch, and the vectors of every one. -/
theorem Rounds.answers (course : Rounds service batches rounds result)
    {vectors : List (List Embedding)} (succeeded : result = .ok vectors) :
    rounds.length = batches.length ∧
      ∃ answers : List (List Placed),
        rounds.map Round.found? = answers.map some ∧ vectors = answers.map inOrder := by
  induction course generalizing vectors with
  | done =>
      obtain rfl := Except.ok.inj succeeded
      exact ⟨rfl, [], rfl, rfl⟩
  | unsent => cases succeeded
  | failed => cases succeeded
  | @answered _ _ _ _ _ result sent proper gives further inductionHypothesis =>
      cases result with
      | error failure => cases succeeded
      | ok others =>
          obtain rfl := Except.ok.inj succeeded
          obtain ⟨found, given, rfl⟩ := Round.outcome_eq_ok_iff.mp gives
          obtain ⟨length, answers, same, rfl⟩ := inductionHypothesis rfl
          exact ⟨congrArg Nat.succ length, found :: answers, congrArg₂ List.cons given same, rfl⟩

/-- A call that fails does so by its last round, unless no request can be sent at all. -/
theorem Rounds.fails (course : Rounds service batches rounds result) {failure : Failure}
    (failed : result = .error failure) :
    (∃ round, rounds.getLast? = some round ∧ round.outcome = .error failure) ∨
      (rounds = [] ∧ isHeaderValue ("Bearer " ++ service.key) = false) := by
  induction course with
  | done => cases failed
  | unsent unsent =>
      right
      refine ⟨rfl, ?_⟩
      rw [request] at unsent
      split at unsent
      · cases unsent
      · rename_i unusable
        exact Bool.not_eq_true _ ▸ unusable
  | failed sent proper fails =>
      left
      obtain rfl := Except.error.inj failed
      exact ⟨_, rfl, fails⟩
  | @answered _ _ round rounds _ result sent proper gives further inductionHypothesis =>
      cases result with
      | ok others => cases failed
      | error reason =>
          obtain rfl := Except.error.inj failed
          rcases inductionHypothesis rfl with ⟨last, ends, fails⟩ | ⟨_, unusable⟩
          · left
            refine ⟨last, ?_, fails⟩
            rw [List.getLast?_cons, ends]
            rfl
          · rw [request, unusable] at sent
            cases sent

end Course

end OpenAI

end SourceHarvest
