import SourceHarvest.Proofs.VectorStore.Calls

/-!
# Connecting to the store

A connection takes up to three requests.  The collections are listed first, then the store is asked
for the one collection, and only where it answers without saying that the collection is there, the
collection is made.  The connection stands exactly where the collection is there or was made.
-/

namespace SourceHarvest.Milvus

open Http Json

variable {σ : Type}

/-- The requests of a connection in order, and what its replies say on how far it goes and on what
it comes to. -/
structure Connects (store : Milvus) (inquiries : List Inquiry) (result : Except Failure Unit) :
    Prop where
  /-- The collections are listed, the collection is looked for, the collection is made. -/
  inOrder : inquiries.map Inquiry.request <+:
    [ postRequest (store.url "collections/list") (.object []),
      postRequest (store.url "collections/has") (.object [store.collectionMember]),
      postRequest (store.url "collections/create") store.creation ]
  lists : 0 < inquiries.length
  looks : 1 < inquiries.length ↔
    ∃ listing ∈ inquiries[0]?, ∃ data, Answers listing anyData? data
  creates : 2 < inquiries.length ↔
    ∃ looking ∈ inquiries[1]?, ∃ said, Answers looking hasData? said ∧ said ≠ some true
  succeeds : result = .ok () ↔
    (∃ looking ∈ inquiries[1]?, Answers looking hasData? (some true)) ∨
      ∃ making ∈ inquiries[2]?, ∃ data, Answers making anyData? data

section Steps

variable (store : Milvus) (transport : Transport σ) (state : σ)

/-- A store is healthy where it answers with its collections, and no failure gets through. -/
theorem exists_goes_healthCheck :
    ∃ inquiry next,
      inquiry.request = postRequest (store.url "collections/list") (.object []) ∧
      Goes (fun transport => ExceptT.lift (store.healthCheck transport)) transport state [inquiry]
        (.ok (outcome "list collections" anyData? inquiry).isOk) next := by
  rcases store.exists_goes_call "collections/list" (.object []) "list collections" anyData?
    transport state with ⟨inquiry, next, made, called⟩
  refine ⟨inquiry, next, made, ?_, ?_⟩
  · apply run_lift_bind called.plain
    cases outcome "list collections" anyData? inquiry with
    | ok data => rfl
    | error failure => rfl
  · intro log
    apply run_lift_bind (called.logged log)
    cases outcome "list collections" anyData? inquiry with
    | ok data => rfl
    | error failure => rfl

theorem exists_goes_hasCollection :
    ∃ inquiry next,
      inquiry.request =
        postRequest (store.url "collections/has") (.object [store.collectionMember]) ∧
      Goes (fun transport => store.hasCollection transport) transport state [inquiry]
        ((fun said => said.getD false) <$> outcome "has collection" hasData? inquiry) next := by
  rcases store.exists_goes_call "collections/has" (.object [store.collectionMember])
    "has collection" hasData? transport state with ⟨inquiry, next, made, called⟩
  exact ⟨inquiry, next, made, called.map _⟩

theorem exists_goes_createCollection :
    ∃ inquiry next,
      inquiry.request = postRequest (store.url "collections/create") store.creation ∧
      Goes (fun transport => store.createCollection transport) transport state [inquiry]
        ((fun _ => ()) <$> outcome "create collection" anyData? inquiry) next := by
  rcases store.exists_goes_call "collections/create" store.creation "create collection" anyData?
    transport state with ⟨inquiry, next, made, called⟩
  exact ⟨inquiry, next, made, called.map _⟩

end Steps

section Outcomes

variable {store : Milvus} {listing looking making : Inquiry} {data : Option Value}
  {said : Option Bool} {failure : Failure}
  (listed : listing.request = postRequest (store.url "collections/list") (.object []))
  (looked : looking.request =
    postRequest (store.url "collections/has") (.object [store.collectionMember]))
  (made : making.request = postRequest (store.url "collections/create") store.creation)
  (lists : outcome "list collections" anyData? listing = .ok data)
  (tells : outcome "has collection" hasData? looking = .ok said)

include listed

theorem connects_of_unlisted (fails : outcome "list collections" anyData? listing = .error failure)
    (reason : Failure) : store.Connects [listing] (.error reason) := by
  constructor
  · simp [listed]
  · simp
  · simp [not_answers fails]
  · simp
  · simp

include looked lists

theorem connects_of_untold (fails : outcome "has collection" hasData? looking = .error failure) :
    store.Connects [listing, looking] (.error failure) := by
  constructor
  · simp [listed, looked]
  · simp
  · simp [answers_iff lists]
  · simp [not_answers fails]
  · simp [not_answers fails]

include tells

theorem connects_of_present (present : said.getD false = true) :
    store.Connects [listing, looking] (.ok ()) := by
  obtain rfl : said = some true := by
    cases said with
    | none => cases present
    | some there => exact congrArg some present
  constructor
  · simp [listed, looked]
  · simp
  · simp [answers_iff lists]
  · simp [answers_iff tells]
  · simp [answers_iff tells]

include made

theorem connects_of_absent (absent : said.getD false = false) :
    store.Connects [listing, looking, making]
      ((fun _ => ()) <$> outcome "create collection" anyData? making) := by
  have unsaid : said ≠ some true := by
    rintro rfl
    cases absent
  constructor
  · simp [listed, looked, made]
  · simp
  · simp [answers_iff lists]
  · simp [answers_iff tells, unsaid]
  · cases made : outcome "create collection" anyData? making with
    | error failure => simp [answers_iff tells, unsaid.symm, not_answers made]
    | ok data => simp [answers_iff made]

end Outcomes

/-- Every connection goes by the replies to its own requests: it makes the collection where the
store answered and did not say that the collection is there, and it comes to nothing else. -/
theorem connect_goes_by_replies (store : Milvus) (transport : Transport σ) (state : σ) :
    ∃ inquiries result next,
      Goes (fun transport => store.connect transport) transport state inquiries result next ∧
      store.Connects inquiries result ∧ inquiries.length ≤ 3 := by
  suffices found : ∃ inquiries result next,
      Goes (fun transport => store.connect transport) transport state inquiries result next ∧
      store.Connects inquiries result by
    rcases found with ⟨inquiries, result, next, goes, connects⟩
    refine ⟨inquiries, result, next, goes, connects, ?_⟩
    simpa using connects.inOrder.length_le
  rcases store.exists_goes_healthCheck transport state with ⟨listing, first, listed, checked⟩
  simp only [connect]
  cases lists : outcome "list collections" anyData? listing with
  | error failure =>
      rw [lists] at checked
      exact ⟨_, _, _, checked.bind_of_ok (Goes.still (.error _) transport first),
        connects_of_unlisted listed lists _⟩
  | ok data =>
      rw [lists] at checked
      rcases store.exists_goes_hasCollection transport first with ⟨looking, second, looked, asked⟩
      cases tells : outcome "has collection" hasData? looking with
      | error failure =>
          rw [tells] at asked
          exact ⟨_, _, _, checked.bind_of_ok asked.bind_of_error,
            connects_of_untold listed looked lists tells⟩
      | ok said =>
          rw [tells, Except.map_ok] at asked
          cases there : said.getD false with
          | true =>
              rw [there] at asked
              have done := Goes.still (.ok ()) transport second
              exact ⟨_, _, _, checked.bind_of_ok (asked.bind_of_ok done),
                connects_of_present listed looked lists tells there⟩
          | false =>
              rw [there] at asked
              rcases store.exists_goes_createCollection transport second with
                ⟨making, third, made, created⟩
              exact ⟨_, _, _, checked.bind_of_ok (asked.bind_of_ok created),
                connects_of_absent listed looked made lists tells there⟩

end SourceHarvest.Milvus
