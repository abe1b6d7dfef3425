import SourceHarvest.Proofs.Http.Transfers
import SourceHarvest.VectorStore.Milvus

/-!
# Calls of the store

Every operation of the store is one inquiry.  It succeeds exactly where a reply comes back whose
status is good and whose body is an envelope with the code zero, and it gives the data in there.
-/

namespace SourceHarvest.Milvus

open Http Json

variable {σ α : Type}

/-- The data in a reply, or a failure that says what is wrong with the reply. -/
def dataIn (operation : String) (read : Document → Option α) (reply : HttpReply) :
    Except Failure (Option α) :=
  if reply.isSuccess then
    match (Document.ofText? reply.body).bind (Envelope.ofDocument? read) with
    | none => .error (Failure.ofMessage s!"Failed to decode Milvus {operation} response")
    | some envelope =>
        if envelope.code = 0 then .ok envelope.data
        else
          let words := envelope.message.getD ""
          .error (Failure.ofMessage s!"Milvus {operation} error (code {envelope.code}): {words}")
  else .error (Failure.ofMessage s!"Milvus {operation} error ({reply.statusText}): {reply.words}")

/-- What an operation comes to by its inquiry. -/
def outcome (operation : String) (read : Document → Option α) (inquiry : Inquiry) :
    Except Failure (Option α) :=
  inquiry.received s!"Failed to send Milvus {operation} request" >>= dataIn operation read

/-- A reply came back with a status of the two hundreds, and its body is an envelope with the code
zero and with this data. -/
def Answers (inquiry : Inquiry) (read : Document → Option α) (data : Option α) : Prop :=
  ∃ reply message, inquiry.reply? = some reply ∧ 200 ≤ reply.status ∧ reply.status < 300 ∧
    (Document.ofText? reply.body).bind (Envelope.ofDocument? read) = some ⟨0, message, data⟩

theorem dataIn_eq_ok_iff {operation : String} {read : Document → Option α} {reply : HttpReply}
    {data : Option α} :
    dataIn operation read reply = .ok data ↔
      ∃ message, 200 ≤ reply.status ∧ reply.status < 300 ∧
        (Document.ofText? reply.body).bind (Envelope.ofDocument? read) =
          some ⟨0, message, data⟩ := by
  rw [dataIn]
  by_cases success : reply.isSuccess = true
  · have good : 200 ≤ reply.status ∧ reply.status < 300 := by
      simpa [HttpReply.isSuccess] using success
    simp only [success, if_true, good, true_and]
    cases (Document.ofText? reply.body).bind (Envelope.ofDocument? read) with
    | none => simp
    | some envelope =>
        rcases envelope with ⟨code, message, found⟩
        by_cases zero : code = 0
        · simp [zero]
        · simp [zero]
  · have bad : ¬ (200 ≤ reply.status ∧ reply.status < 300) := by
      simpa [HttpReply.isSuccess] using success
    simp only [success]
    constructor
    · intro failed
      cases failed
    · rintro ⟨_, least, greatest, _⟩
      exact absurd ⟨least, greatest⟩ bad

theorem outcome_eq_ok_iff (operation : String) {read : Document → Option α} {inquiry : Inquiry}
    {data : Option α} :
    outcome operation read inquiry = .ok data ↔ Answers inquiry read data := by
  rw [outcome, Answers]
  constructor
  · intro succeeded
    cases came : inquiry.received s!"Failed to send Milvus {operation} request" with
    | error failure =>
        rw [came] at succeeded
        cases succeeded
    | ok reply =>
        rw [came] at succeeded
        rcases dataIn_eq_ok_iff.mp succeeded with ⟨message, good⟩
        exact ⟨reply, message, Inquiry.received_eq_ok_iff.mp came, good⟩
  · rintro ⟨reply, message, came, good⟩
    rw [Inquiry.received_eq_ok_iff.mpr came]
    exact dataIn_eq_ok_iff.mpr ⟨message, good⟩

theorem answers_iff {operation : String} {read : Document → Option α} {inquiry : Inquiry}
    {data : Option α} (succeeded : outcome operation read inquiry = .ok data) {other : Option α} :
    Answers inquiry read other ↔ other = data := by
  rw [← outcome_eq_ok_iff operation, succeeded, Except.ok.injEq, eq_comm]

theorem not_answers {operation : String} {read : Document → Option α} {inquiry : Inquiry}
    {failure : Failure} (failed : outcome operation read inquiry = .error failure)
    (data : Option α) : ¬ Answers inquiry read data := by
  rw [← outcome_eq_ok_iff operation, failed]
  rintro ⟨⟩

/-- A call is one inquiry, and the reply to it says what the call comes to. -/
theorem exists_goes_call (store : Milvus) (path : String) (body : Value) (operation : String)
    (read : Document → Option α) (transport : Transport σ) (state : σ) :
    ∃ inquiry next, inquiry.request = postRequest (store.url path) body ∧
      Goes (fun transport => store.call transport path body operation read) transport state
        [inquiry] (outcome operation read inquiry) next := by
  rcases exists_goes_post (store.url path) body s!"Failed to send Milvus {operation} request"
    transport state with ⟨inquiry, next, made, posted⟩
  refine ⟨inquiry, next, made, ?_⟩
  have called {τ : Type} (transport : Transport τ) :
      store.call transport path body operation read =
        post transport (store.url path) body s!"Failed to send Milvus {operation} request" >>=
          fun reply => ExceptT.mk (pure (dataIn operation read reply)) := by
    rw [call]
    apply congrArg (post transport (store.url path) body _ >>= ·)
    funext reply
    rw [dataIn, decode]
    split
    · cases (Document.ofText? reply.body).bind (Envelope.ofDocument? read) with
      | none => rfl
      | some envelope =>
          simp only [pure_bind]
          split
          · rfl
          · rfl
    · rfl
  simp only [called, outcome]
  cases came : inquiry.received s!"Failed to send Milvus {operation} request" with
  | error failure =>
      rw [came] at posted
      exact posted.bind_of_error
  | ok reply =>
      rw [came] at posted
      exact posted.bind_of_ok (Goes.still _ _ _)

end SourceHarvest.Milvus
