import SourceHarvest.Http.Exchange
import Mathlib.Data.List.Basic

/-!
# Transfers

What goes over a transport can be recorded beside it.  Work that sends requests does the same over
the transport with a record as over the transport alone, so a record tells what was sent for the
sake of some work and in which order.
-/

namespace SourceHarvest.Http

/-- A request that went over a transport, and what came back. -/
structure Transfer where
  request : HttpRequest
  reply : Option HttpReply
deriving DecidableEq, Repr

/-- The transport, with a list of all that has gone over it. -/
def recorded {σ : Type} (transport : Transport σ) : Transport (σ × List Transfer) :=
  fun request state =>
    let (reply, next) := transport request state.1
    (reply, next, state.2 ++ [⟨request, reply⟩])

section Exchange

variable {σ α β : Type} {work : Exchange σ α} {next : α → Exchange σ β} {state after : σ}

theorem run_bind_of_ok {value : α} (ran : work.run state = (.ok value, after)) :
    (work >>= next).run state = (next value).run after := by
  change ExceptT.bindCont next (work.run state).1 (work.run state).2 = _
  rw [ran]
  rfl

theorem run_bind_of_error {failure : Failure} (ran : work.run state = (.error failure, after)) :
    (work >>= next).run state = (.error failure, after) := by
  change ExceptT.bindCont next (work.run state).1 (work.run state).2 = _
  rw [ran]
  rfl

theorem run_map {change : α → β} {result : Except Failure α}
    (ran : work.run state = (result, after)) :
    (change <$> work).run state = (change <$> result, after) := by
  rw [map_eq_pure_bind]
  cases result with
  | ok value => exact run_bind_of_ok ran
  | error failure => exact run_bind_of_error ran

/-- Work whose failure is caught goes on as it says for the failure. -/
theorem run_lift_bind {settle : Except Failure α → StateM σ β} {result : Except Failure α}
    {value : β} {final : σ} (ran : work.run state = (result, after))
    (settled : settle result after = (value, final)) :
    (ExceptT.lift (work.run >>= settle) : Exchange σ β).run state = (.ok value, final) := by
  have lifted : (ExceptT.lift (work.run >>= settle) : Exchange σ β).run state =
      (.ok (settle (work.run state).1 (work.run state).2).1,
        (settle (work.run state).1 (work.run state).2).2) := rfl
  rw [lifted, ran, settled]

variable {step : α → Exchange σ β} {first : α} {rest : List α}

theorem run_mapM_cons_of_ok {value : β} {result : Except Failure (List β)} {final : σ}
    (ran : (step first).run state = (.ok value, after))
    (further : (rest.mapM step).run after = (result, final)) :
    ((first :: rest).mapM step).run state = ((value :: ·) <$> result, final) := by
  rw [List.mapM_cons, run_bind_of_ok ran, ← map_eq_pure_bind]
  exact run_map further

theorem run_mapM_cons_of_error {failure : Failure}
    (ran : (step first).run state = (.error failure, after)) :
    ((first :: rest).mapM step).run state = (.error failure, after) := by
  rw [List.mapM_cons]
  exact run_bind_of_error ran

variable {sending : HttpRequest → σ → Option HttpReply × σ} {request : HttpRequest}

theorem run_sendOver_of_reply {reply : HttpReply}
    (came : sending request state = (some reply, after)) (purpose : String) :
    (sendOver sending (.ok request) purpose).run state = (.ok reply, after) := by
  simp only [sendOver, ExceptT.run_mk, came]

theorem run_sendOver_of_none (came : sending request state = (none, after)) (purpose : String) :
    (sendOver sending (.ok request) purpose).run state =
      (.error ((Obstacle.noReply request.url).failure purpose), after) := by
  simp only [sendOver, ExceptT.run_mk, came]

end Exchange

/-! ### Inquiries -/

/-- What became of one request that was to be made: something kept it from being sent, or it went
over the transport and a reply came back or none. -/
inductive Inquiry where
  | unsent (obstacle : Obstacle)
  | sent (request : HttpRequest) (reply : Option HttpReply)
deriving DecidableEq, Repr

namespace Inquiry

/-- The request, or what kept it from being sent. -/
def request : Inquiry → Except Obstacle HttpRequest
  | unsent obstacle => .error obstacle
  | sent request _ => .ok request

/-- The reply that came back. -/
def reply? : Inquiry → Option HttpReply
  | unsent _ => none
  | sent _ reply => reply

/-- What went over the transport. -/
def transfers : Inquiry → List Transfer
  | unsent _ => []
  | sent request reply => [⟨request, reply⟩]

/-- The reply, or a failure that says what the request was for. -/
def received (inquiry : Inquiry) (purpose : String) : Except Failure HttpReply :=
  match inquiry with
  | unsent obstacle => .error (obstacle.failure purpose)
  | sent request none => .error ((Obstacle.noReply request.url).failure purpose)
  | sent _ (some reply) => .ok reply

theorem received_eq_ok_iff {inquiry : Inquiry} {purpose : String} {reply : HttpReply} :
    inquiry.received purpose = .ok reply ↔ inquiry.reply? = some reply := by
  rcases inquiry with obstacle | ⟨request, none | found⟩
  · simp [received, reply?]
  · simp [received, reply?]
  · simp [received, reply?]

end Inquiry

/-- Over a transport, work comes to a result by a list of inquiries.  A record changes nothing, and
holds what went over the transport for them. -/
structure Goes {σ α : Type} (work : ∀ {τ : Type}, Transport τ → Exchange τ α)
    (transport : Transport σ) (state : σ) (inquiries : List Inquiry) (result : Except Failure α)
    (next : σ) : Prop where
  plain : (work transport).run state = (result, next)
  logged : ∀ log, (work (recorded transport)).run (state, log) =
    (result, next, log ++ inquiries.flatMap Inquiry.transfers)

section Goes

variable {σ α β : Type} {work : ∀ {τ : Type}, Transport τ → Exchange τ α}
  {further : ∀ {τ : Type}, Transport τ → α → Exchange τ β} {transport : Transport σ}
  {state middle final : σ} {inquiries others : List Inquiry}

/-- Work that sends nothing. -/
theorem Goes.still (result : Except Failure α) (transport : Transport σ) (state : σ) :
    Goes (fun _ => ExceptT.mk (pure result)) transport state [] result state := by
  constructor
  · rfl
  · intro log
    rw [List.flatMap_nil, List.append_nil]
    rfl

theorem Goes.bind_of_ok {value : α} {result : Except Failure β}
    (first : Goes work transport state inquiries (.ok value) middle)
    (second : Goes (fun transport => further transport value) transport middle others result final) :
    Goes (fun transport => work transport >>= further transport) transport state
      (inquiries ++ others) result final := by
  constructor
  · rw [run_bind_of_ok first.plain]
    exact second.plain
  · intro log
    rw [run_bind_of_ok (first.logged log), List.flatMap_append, ← List.append_assoc]
    exact second.logged _

theorem Goes.bind_of_error {failure : Failure}
    (first : Goes work transport state inquiries (.error failure) middle) :
    Goes (fun transport => work transport >>= further transport) transport state inquiries
      (.error failure) middle := by
  constructor
  · exact run_bind_of_error first.plain
  · intro log
    exact run_bind_of_error (first.logged log)

theorem Goes.map {result : Except Failure α} (change : α → β)
    (ran : Goes work transport state inquiries result final) :
    Goes (fun transport => work transport >>= fun value => pure (change value)) transport state
      inquiries (change <$> result) final := by
  cases result with
  | error failure => exact ran.bind_of_error
  | ok value =>
      rw [← List.append_nil inquiries]
      exact ran.bind_of_ok (Goes.still (.ok (change value)) transport final)

/-- Posting is one inquiry. -/
theorem exists_goes_post (url : String) (body : Json.Value) (purpose : String)
    (transport : Transport σ) (state : σ) :
    ∃ inquiry next, inquiry.request = postRequest url body ∧
      Goes (fun transport => post transport url body purpose) transport state [inquiry]
        (inquiry.received purpose) next := by
  cases made : postRequest url body with
  | error obstacle =>
      refine ⟨.unsent obstacle, state, rfl, ?_, ?_⟩
      · rw [post, made]
        rfl
      · intro log
        rw [post, made, List.flatMap_singleton, Inquiry.transfers, List.append_nil]
        rfl
  | ok request =>
      cases sent : transport request state with
      | mk reply next =>
          have logged (log : List Transfer) : recorded transport request (state, log) =
              (reply, next, log ++ [⟨request, reply⟩]) := by
            rw [recorded, sent]
          cases reply with
          | none =>
              refine ⟨.sent request none, next, rfl, ?_, ?_⟩
              · rw [post, made]
                exact run_sendOver_of_none sent purpose
              · intro log
                rw [post, made]
                exact run_sendOver_of_none (logged log) purpose
          | some reply =>
              refine ⟨.sent request (some reply), next, rfl, ?_, ?_⟩
              · rw [post, made]
                exact run_sendOver_of_reply sent purpose
              · intro log
                rw [post, made]
                exact run_sendOver_of_reply (logged log) purpose

end Goes

end SourceHarvest.Http
