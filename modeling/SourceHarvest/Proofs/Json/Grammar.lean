import SourceHarvest.Json.Document
import SourceHarvest.Proofs.Json.Lexis

/-!
# The grammar of documents

A document has one row of tokens, and the machine over tokens comes to the document from that
row and from no other.  One way, every state of the machine tells the tokens that it has taken,
and a step adds one to them; the other way, the machine is led through the row of a document
part by part.  So a text is taken apart into a document exactly if it spells its tokens.
-/

namespace SourceHarvest.Json

namespace Document

mutual

/-- The tokens of a document. -/
def tokens : Document → List Token
  | .null => [.null]
  | .boolean value => [.boolean value]
  | .numeral value => [.numeral value]
  | .text value => [.text value]
  | .array items => .openArray :: ([.comma].intercalate (itemTokens items) ++ [.closeArray])
  | .object members => .openObject :: ([.comma].intercalate (memberTokens members) ++ [.closeObject])

/-- The tokens of each of several documents. -/
def itemTokens : List Document → List (List Token)
  | [] => []
  | item :: rest => tokens item :: itemTokens rest

/-- The tokens of each of several members. -/
def memberTokens : List (Option String × Document) → List (List Token)
  | [] => []
  | (name, value) :: rest => (.text name :: .colon :: tokens value) :: memberTokens rest

end

theorem itemTokens_eq_map (items : List Document) : itemTokens items = items.map tokens := by
  induction items with
  | nil => rfl
  | cons item rest inductionHypothesis => rw [itemTokens, inductionHypothesis, List.map_cons]

theorem memberTokens_eq_map (members : List (Option String × Document)) :
    memberTokens members = members.map fun member => .text member.1 :: .colon :: member.2.tokens := by
  induction members with
  | nil => rfl
  | cons member rest inductionHypothesis => rw [memberTokens, inductionHypothesis, List.map_cons]

/-- The text is one that the document is written with. -/
def Writes (document : Document) (text : String) : Prop :=
  Token.SpellsAll document.tokens text.toList

/-! ## From the machine to the tokens -/

/-- Of several parts, each but the first has a mark in front of it. -/
theorem intercalate_cons {α : Type} (mark : α) (first : List α) (others : List (List α)) :
    [mark].intercalate (first :: others) = first ++ others.flatMap (mark :: ·) := by
  induction others generalizing first with
  | nil => simp
  | cons next more inductionHypothesis =>
      rw [List.intercalate_cons_cons, inductionHypothesis, List.flatMap_cons, List.append_assoc]
      rfl

/-- A row of parts has a mark behind each of them but the last. -/
theorem intercalate_concat {α : Type} (mark : α) (parts : List (List α)) (last : List α) :
    [mark].intercalate (parts ++ [last]) = parts.flatMap (· ++ [mark]) ++ last := by
  induction parts with
  | nil => simp [List.intercalate]
  | cons part rest inductionHypothesis =>
      rw [List.cons_append, List.intercalate_cons_of_ne_nil (by simp), inductionHypothesis,
        List.flatMap_cons, List.append_assoc, List.append_assoc]
      simp

/-- The tokens that an open array or object has taken. -/
def Frame.taken : Frame → List Token
  | .array items => .openArray :: (itemTokens items.reverse).flatMap (· ++ [.comma])
  | .object members name =>
      .openObject :: ((memberTokens members.reverse).flatMap (· ++ [.comma]) ++ [.text name, .colon])

/-- The tokens that open arrays and objects have taken. -/
def framesTaken (frames : List Frame) : List Token :=
  frames.reverse.flatMap Frame.taken

theorem framesTaken_cons (frame : Frame) (frames : List Frame) :
    framesTaken (frame :: frames) = framesTaken frames ++ frame.taken := by
  simp [framesTaken]

namespace State

/-- The tokens that the machine has taken on its way to a state. -/
def taken : State → List Token
  | wantsValue frames => framesTaken frames
  | wantsElementOrClose frames => framesTaken frames ++ [.openArray]
  | wantsNameOrClose frames => framesTaken frames ++ [.openObject]
  | wantsName members frames =>
      framesTaken frames ++ .openObject :: (memberTokens members.reverse).flatMap (· ++ [.comma])
  | wantsColon members name frames =>
      framesTaken frames ++
        .openObject :: ((memberTokens members.reverse).flatMap (· ++ [.comma]) ++ [.text name])
  | complete document frames => framesTaken frames ++ document.tokens

theorem taken_startValue {frames : List Frame} {token : Token} {next : State}
    (started : startValue frames token = some next) :
    next.taken = framesTaken frames ++ [token] := by
  cases token <;> cases started <;> rfl

/-- A step adds its token to those taken. -/
theorem taken_step {state next : State} {token : Token} (stepped : state.step token = some next) :
    next.taken = state.taken ++ [token] := by
  rw [step.eq_def] at stepped
  split at stepped
  case h_1 => exact taken_startValue stepped
  case h_2 =>
      cases stepped
      simp [taken, tokens, itemTokens, List.intercalate]
  case h_3 frames token _ =>
      rw [taken_startValue stepped, framesTaken_cons, taken]
      rfl
  case h_4 =>
      cases stepped
      simp [taken, tokens, memberTokens, List.intercalate]
  case h_5 | h_6 | h_7 =>
      cases stepped
      simp [taken, framesTaken_cons, Frame.taken, memberTokens]
  case h_8 | h_9 =>
      cases stepped
      simp [taken, tokens, framesTaken_cons, Frame.taken, itemTokens_eq_map, intercalate_concat]
  case h_10 | h_11 =>
      cases stepped
      simp [taken, tokens, framesTaken_cons, Frame.taken, memberTokens_eq_map, intercalate_concat]
  case h_12 => cases stepped

/-- A run adds its tokens to those taken. -/
theorem taken_run {state last : State} {tokens : List Token} (ran : state.run tokens = some last) :
    last.taken = state.taken ++ tokens := by
  induction tokens generalizing state with
  | nil =>
      cases ran
      rw [List.append_nil]
  | cons token rest inductionHypothesis =>
      rcases Option.bind_eq_some_iff.mp ran with ⟨next, stepped, further⟩
      rw [inductionHypothesis further, taken_step stepped, List.append_assoc, List.singleton_append]

theorem step_complete_numeral (document : Document) (frames : List Frame) (value : Numeral) :
    (complete document frames).step (.numeral value) = none := by
  cases frames with
  | nil => rfl
  | cons frame rest => cases frame <;> rfl

theorem exists_complete_of_numeral {state next : State} {value : Numeral}
    (stepped : state.step (.numeral value) = some next) :
    ∃ frames, next = complete (.numeral value) frames := by
  cases state with
  | wantsValue frames =>
      cases stepped
      exact ⟨_, rfl⟩
  | wantsElementOrClose frames =>
      cases stepped
      exact ⟨_, rfl⟩
  | wantsNameOrClose | wantsName | wantsColon => cases stepped
  | complete document frames =>
      rw [step_complete_numeral] at stepped
      cases stepped

/-- A numeral is a whole value, and no value follows another at once. -/
theorem parted_of_run {state last : State} {tokens : List Token}
    (ran : state.run tokens = some last) : Token.Parted tokens := by
  induction tokens generalizing state with
  | nil => exact .nil
  | cons token rest inductionHypothesis =>
      rcases Option.bind_eq_some_iff.mp ran with ⟨next, stepped, further⟩
      refine (inductionHypothesis further).cons fun follower member first second => ?_
      rcases first with ⟨value, rfl⟩
      rcases second with ⟨number, rfl⟩
      rcases List.head?_eq_some_iff.mp member with ⟨others, rfl⟩
      rcases exists_complete_of_numeral stepped with ⟨frames, rfl⟩
      rcases Option.bind_eq_some_iff.mp further with ⟨_, impossible, _⟩
      rw [step_complete_numeral] at impossible
      cases impossible

/-! ## From the tokens through the machine -/

/-- Elements that may be missing start as elements do. -/
theorem run_wantsElementOrClose (item : Document) (others : List Document) (frames : List Frame)
    (rest : List Token) :
    (wantsElementOrClose frames).run ([.comma].intercalate (itemTokens (item :: others)) ++ rest) =
      (wantsValue (.array [] :: frames)).run
        ([.comma].intercalate (itemTokens (item :: others)) ++ rest) := by
  rw [itemTokens, intercalate_cons]
  cases item <;> rfl

/-- Members that may be missing start as members do. -/
theorem run_wantsNameOrClose (member : Option String × Document)
    (others : List (Option String × Document)) (frames : List Frame) (rest : List Token) :
    (wantsNameOrClose frames).run
        ([.comma].intercalate (memberTokens (member :: others)) ++ rest) =
      (wantsName [] frames).run
        ([.comma].intercalate (memberTokens (member :: others)) ++ rest) := by
  rw [memberTokens, intercalate_cons]
  rfl

mutual

/-- The machine is led through the tokens of a document to the document. -/
theorem run_tokens (document : Document) (frames : List Frame) :
    (wantsValue frames).run document.tokens = some (complete document frames) := by
  cases document with
  | null | boolean | numeral | text => rfl
  | array items =>
      cases items with
      | nil => rfl
      | cons item others =>
          have elements := run_items (item :: others) (List.cons_ne_nil _ _) [] frames
          rwa [← run_wantsElementOrClose] at elements
  | object members =>
      cases members with
      | nil => rfl
      | cons member others =>
          have elements := run_members (member :: others) (List.cons_ne_nil _ _) [] frames
          rwa [← run_wantsNameOrClose] at elements

/-- The elements of an open array go behind those that it holds. -/
theorem run_items (items : List Document) (nonempty : items ≠ []) (held : List Document)
    (frames : List Frame) :
    (wantsValue (.array held :: frames)).run
        ([.comma].intercalate (itemTokens items) ++ [.closeArray]) =
      some (complete (.array (held.reverse ++ items)) frames) := by
  cases items with
  | nil => exact absurd rfl nonempty
  | cons item others =>
      have here := run_tokens item (.array held :: frames)
      cases others with
      | nil =>
          rw [itemTokens, itemTokens, List.intercalate_singleton, run_append, here]
          simp [run, step]
      | cons next more =>
          have further := run_items (next :: more) (List.cons_ne_nil _ _) (item :: held) frames
          rw [itemTokens] at further ⊢
          rw [itemTokens, List.intercalate_cons_cons, List.append_assoc, List.append_assoc, run_append,
            here]
          simpa [run, step] using further

/-- The members of an open object go behind those that it holds. -/
theorem run_members (members : List (Option String × Document)) (nonempty : members ≠ [])
    (held : List (Option String × Document)) (frames : List Frame) :
    (wantsName held frames).run
        ([.comma].intercalate (memberTokens members) ++ [.closeObject]) =
      some (complete (.object (held.reverse ++ members)) frames) := by
  cases members with
  | nil => exact absurd rfl nonempty
  | cons member others =>
      rcases member with ⟨name, value⟩
      have here := run_tokens value (.object held name :: frames)
      cases others with
      | nil =>
          rw [memberTokens, memberTokens, List.intercalate_singleton]
          change (wantsValue (.object held name :: frames)).run (value.tokens ++ [.closeObject]) = _
          rw [run_append, here]
          simp [run, step]
      | cons next more =>
          have further := run_members (next :: more) (List.cons_ne_nil _ _) ((name, value) :: held)
            frames
          rw [memberTokens] at further ⊢
          rw [memberTokens, List.intercalate_cons_cons, List.append_assoc, List.append_assoc]
          change (wantsValue (.object held name :: frames)).run (value.tokens ++ _) = _
          rw [run_append, here]
          simpa [run, step] using further

end

end State

/-- The machine comes to a document from its own tokens and from no others. -/
theorem ofTokens?_eq_some_iff {tokens : List Token} {document : Document} :
    ofTokens? tokens = some document ↔ tokens = document.tokens := by
  constructor
  · intro taken
    rw [ofTokens?] at taken
    split at taken
    · rename_i found ran
      cases taken
      exact (State.taken_run ran).symm
    · cases taken
  · rintro rfl
    rw [ofTokens?, State.run_tokens]

theorem parted_tokens (document : Document) : Token.Parted document.tokens :=
  State.parted_of_run (State.run_tokens document [])

/-- A text is taken apart into a document exactly if the document is written with it. -/
theorem ofText?_eq_some_iff {text : String} {document : Document} :
    ofText? text = some document ↔ document.Writes text := by
  rw [ofText?, Option.bind_eq_some_iff]
  constructor
  · rintro ⟨tokens, cut, taken⟩
    rw [ofTokens?_eq_some_iff] at taken
    subst taken
    exact spellsAll_of_tokens? cut
  · intro written
    exact ⟨_, written.tokens? document.parted_tokens, ofTokens?_eq_some_iff.mpr rfl⟩

end Document

end SourceHarvest.Json
