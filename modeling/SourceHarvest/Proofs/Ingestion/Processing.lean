import SourceHarvest.Proofs.Ingestion.Course

/-!
# The work on one file follows a course

The parts of the work on a file are taken one after the other, each with the dialogues it can
have: what is read of the file tree, what the grammars and the embedder are asked, what the
store is told.  Put together in the order of the work they give the dialogues of the whole of
it, and whatever is answered, one of the courses is taken.
-/

namespace SourceHarvest

namespace FileJob

open Job

/-! ## The parts of the work -/

/-- Work that can fail goes on only where its first part succeeds. -/
theorem yields_exceptBind_iff {α β : Type} {work : ExceptT Failure Job α}
    {next : α → ExceptT Failure Job β} {dialogue : List Reply} {result : Except Failure β} :
    Yields (work >>= next).run dialogue result ↔
      (∃ failure, Yields work.run dialogue (.error failure) ∧ result = .error failure) ∨
        ∃ first value second, dialogue = first ++ second ∧ Yields work.run first (.ok value) ∧
          Yields (next value).run second result := by
  rw [ExceptT.run_bind, yields_bind_iff]
  constructor
  · rintro ⟨first, middle, second, rfl, yields, rest⟩
    cases middle with
    | ok value => exact .inr ⟨first, value, second, rfl, yields, rest⟩
    | error failure =>
        rcases yields_pure_iff.mp rest with ⟨rfl, rfl⟩
        exact .inl ⟨failure, by simpa using yields, rfl⟩
  · rintro (⟨failure, yields, rfl⟩ | ⟨first, value, second, rfl, yields, rest⟩)
    · exact ⟨dialogue, .error failure, [], by simp, yields, .done _⟩
    · exact ⟨first, .ok value, second, rfl, yields, rest⟩

/-- Work that starts with a question goes on with its answer. -/
theorem yields_questionBind_iff {α : Type} {request : Request}
    {next : request.Answer → ExceptT Failure Job α} {dialogue : List Reply}
    {result : Except Failure α} :
    Yields (ExceptT.lift (question request) >>= next).run dialogue result ↔
      ∃ answer rest, dialogue = ⟨request, answer⟩ :: rest ∧
        Yields (next answer).run rest result := by
  rw [yields_exceptBind_iff, ExceptT.run_lift]
  constructor
  · rintro (⟨failure, asked, rfl⟩ | ⟨first, answer, second, rfl, asked, rest⟩)
    · rcases yields_map_iff.mp asked with ⟨_, _, impossible⟩
      cases impossible
    · rcases yields_map_iff.mp asked with ⟨_, yields, same⟩
      cases same
      obtain rfl := yields_question_iff.mp yields
      exact ⟨answer, second, rfl, rest⟩
  · rintro ⟨answer, rest, rfl, yields⟩
    exact .inr ⟨[⟨request, answer⟩], answer, rest, rfl,
      yields_map_iff.mpr ⟨answer, yields_question_iff.mpr rfl, rfl⟩, yields⟩

/-- A step that asks nothing has its result at once. -/
theorem yields_exceptPure_iff {α : Type} {known : Except Failure α} {dialogue : List Reply}
    {result : Except Failure α} :
    Yields (ExceptT.mk (pure known)).run dialogue result ↔ dialogue = [] ∧ result = known :=
  yields_pure_iff

variable {σ : Type} {services : Services σ} {tree : FileTree}

/-- The time of a file is that of the tree, and asking for it leaves the store alone. -/
theorem yields_modifiedMillis {path : Path} {dialogue : List Reply} {result : Except Failure Nat}
    (yields : Yields (Tracking.modifiedMillis path).run dialogue result)
    (grounded : ∀ reply ∈ dialogue, reply.Grounded services tree) :
    storeCalls dialogue = [] ∧ result.toOption = tree.millis? path := by
  rw [Tracking.modifiedMillis, yields_questionBind_iff] at yields
  rcases yields with ⟨answer, rest, rfl, yields⟩
  have honest : answer = tree.modified path := grounded _ List.mem_cons_self
  subst honest
  simp only [FileTree.millis?]
  cases found : tree.modified path with
  | error error =>
      rw [found] at yields
      rcases yields_pure_iff.mp yields with ⟨rfl, rfl⟩
      exact ⟨rfl, rfl⟩
  | ok time =>
      rw [found] at yields
      simp only at yields ⊢
      split at yields
      · rename_i early
        rcases yields_pure_iff.mp yields with ⟨rfl, rfl⟩
        rw [if_pos early]
        exact ⟨rfl, rfl⟩
      · rename_i late
        rcases yields_pure_iff.mp yields with ⟨rfl, rfl⟩
        rw [if_neg late]
        exact ⟨rfl, rfl⟩

/-- A file counts as changed where its fingerprint is outdated. -/
theorem yields_hasChanged {ledger : Ledger} {path : Path} {dialogue : List Reply} {due : Bool}
    (yields : Yields (Tracking.hasChanged ledger path) dialogue due)
    (grounded : ∀ reply ∈ dialogue, reply.Grounded services tree) :
    storeCalls dialogue = [] ∧ due = ledger.outdated tree path := by
  rw [Tracking.hasChanged] at yields
  cases known : ledger.get? path with
  | none =>
      rw [known] at yields
      rcases yields_pure_iff.mp yields with ⟨rfl, rfl⟩
      exact ⟨rfl, by simp [Ledger.outdated, known]⟩
  | some fingerprint =>
      rw [known] at yields
      simp only [yields_bind_iff] at yields
      rcases yields with ⟨first, found, second, rfl, dated, rest⟩
      obtain ⟨silent, time⟩ := yields_modifiedMillis dated fun reply member =>
        grounded reply (List.mem_append_left _ member)
      cases found with
      | ok current =>
          rcases yields_pure_iff.mp rest with ⟨rfl, rfl⟩
          exact ⟨by simpa using silent, by simp [Ledger.outdated, known, ← time, Except.toOption]⟩
      | error failure =>
          rcases yields_pure_iff.mp rest with ⟨rfl, rfl⟩
          exact ⟨by simpa using silent, by simp [Ledger.outdated, known, ← time, Except.toOption]⟩

/-- The source of a file is that of the tree, and reading it leaves the store alone. -/
theorem yields_readSource {path : Path} {dialogue : List Reply} {result : Except Failure String}
    (yields : Yields (readSource path).run dialogue result)
    (grounded : ∀ reply ∈ dialogue, reply.Grounded services tree) :
    storeCalls dialogue = [] ∧ result.toOption = tree.source? path := by
  rw [readSource, Tracking.readBytes, bind_assoc, yields_questionBind_iff] at yields
  rcases yields with ⟨answer, rest, rfl, yields⟩
  have honest : answer = tree.read path := grounded _ List.mem_cons_self
  subst honest
  simp only [FileTree.source?]
  cases found : tree.read path with
  | error error =>
      rw [found] at yields
      rcases yields_pure_iff.mp yields with ⟨rfl, rfl⟩
      exact ⟨rfl, rfl⟩
  | ok content =>
      rw [found] at yields
      simp only [pure_bind] at yields ⊢
      cases decoded : String.fromUTF8? content with
      | none =>
          rw [decoded] at yields
          rcases yields_pure_iff.mp yields with ⟨rfl, rfl⟩
          exact ⟨rfl, rfl⟩
      | some source =>
          rw [decoded] at yields
          rcases yields_pure_iff.mp yields with ⟨rfl, rfl⟩
          exact ⟨rfl, rfl⟩

/-- Each chunk gets one vector unless that is refused, and asking for them leaves the store alone. -/
theorem yields_embed {chunks : List Chunk} {dialogue : List Reply}
    {result : Except Failure (List Embedding)}
    (yields : Yields (embed chunks).run dialogue result) :
    storeCalls dialogue = [] ∧
      (∀ embeddings, result = .ok embeddings → embeddings.length = chunks.length ∧
        (chunks = [] ∨ ⟨.embed (chunks.map (·.content)), .ok embeddings⟩ ∈ dialogue)) ∧
      (result.toBool = false → ∃ reply ∈ dialogue, reply.Refused) := by
  rw [embed] at yields
  split at yields
  · rename_i none
    rcases yields_pure_iff.mp yields with ⟨rfl, rfl⟩
    rw [List.isEmpty_iff.mp none]
    refine ⟨rfl, fun embeddings found => ?_, fun impossible => by cases impossible⟩
    cases found
    exact ⟨rfl, .inl rfl⟩
  · rw [yields_exceptBind_iff] at yields
    rcases yields with ⟨failure, asked, rfl⟩ | ⟨first, found, second, rfl, asked, rest⟩
    · rcases yields_map_iff.mp asked with ⟨answer, question, failed⟩
      obtain rfl := yields_question_iff.mp question
      refine ⟨rfl, fun _ impossible => (by cases impossible), fun _ =>
        ⟨_, List.mem_singleton_self _, fun embeddings same => ?_⟩⟩
      obtain rfl : answer = .ok embeddings := same
      cases failed
    · rcases yields_map_iff.mp asked with ⟨answer, question, given⟩
      obtain rfl := yields_question_iff.mp question
      split at rest
      · rename_i same
        rcases yields_pure_iff.mp rest with ⟨rfl, rfl⟩
        refine ⟨rfl, fun embeddings equal => ?_, fun impossible => by cases impossible⟩
        cases equal
        cases answer with
        | error failure => cases given
        | ok embeddings =>
            cases given
            exact ⟨by simpa using same, .inr (by simp)⟩
      · rename_i different
        rcases yields_pure_iff.mp rest with ⟨rfl, rfl⟩
        refine ⟨rfl, fun _ impossible => (by cases impossible), fun _ =>
          ⟨_, List.mem_append_left _ (List.mem_singleton_self _), fun embeddings same => ?_⟩⟩
        obtain rfl : answer = .ok embeddings := same
        cases given
        exact different

/-- Old chunks are dropped as planned. -/
theorem yields_evict {needed : Bool} {relativePath : String} {dialogue : List Reply}
    {result : Except Failure Unit} (yields : Yields (evict needed relativePath).run dialogue result) :
    Carries (if needed then [.evict relativePath] else []) dialogue result.toBool := by
  rw [evict] at yields
  cases needed with
  | false =>
      rcases yields_pure_iff.mp yields with ⟨rfl, rfl⟩
      exact .done
  | true =>
      rcases yields_map_iff.mp yields with ⟨answer, question, rfl⟩
      obtain rfl := yields_question_iff.mp question
      cases (answer : Except Failure Unit) with
      | ok => exact .next Bool.noConfusion .done
      | error => exact .refused rfl

/-- New chunks are stored as planned. -/
theorem yields_upsert {chunks : List Chunk} {embeddings : List Embedding} {dialogue : List Reply}
    {result : Except Failure Unit}
    (yields : Yields (upsert chunks embeddings).run dialogue result) :
    Carries (if chunks.isEmpty then [] else [.upsert chunks embeddings]) dialogue
      result.toBool := by
  rw [upsert] at yields
  split at yields
  · rename_i none
    rcases yields_pure_iff.mp yields with ⟨rfl, rfl⟩
    rw [if_pos none]
    exact .done
  · rename_i some
    rcases yields_map_iff.mp yields with ⟨answer, question, rfl⟩
    obtain rfl := yields_question_iff.mp question
    rw [if_neg some]
    cases (answer : Except Failure Unit) with
    | ok => exact .next Bool.noConfusion .done
    | error => exact .refused rfl

/-! ## The whole of the work -/

/-- All work on a file before the store is called. -/
def prepare (configuration : Configuration) (root path : Path) :
    ExceptT Failure Job Preparation := do
  let lastModified ← Tracking.modifiedMillis path
  let source ← readSource path
  let parsed ← ExceptT.mk (Job.question (.parse path source))
  let bounded ← ExceptT.mk (pure
    (BoundedChunks.ofParsed configuration path (relativePath root path) parsed))
  let embeddings ← embed bounded.chunks
  pure { lastModified, source, bounded, embeddings }

/-- The calls to the store, as they are planned. -/
def commit (needed : Bool) (relativePath : String) (chunks : List Chunk)
    (embeddings : List Embedding) : ExceptT Failure Job Unit := do
  evict needed relativePath
  upsert chunks embeddings

/-- A file is indexed in two parts: all is prepared, and then the store is called. -/
theorem ingest_eq (configuration : Configuration) (root path : Path) (indexedBefore : Bool) :
    ingest configuration root path indexedBefore =
      prepare configuration root path >>= fun preparation =>
        commit (indexedBefore && configuration.evictStale) (relativePath root path)
          preparation.bounded.chunks preparation.embeddings >>= fun _ =>
            pure preparation.result := by
  simp only [ingest, prepare, commit, Preparation.result, bind_assoc, pure_bind]

/-- To prepare a file leaves the store alone.  Either there is an obstacle, or all that it takes
is there. -/
theorem yields_prepare {configuration : Configuration} {root path : Path} {dialogue : List Reply}
    {result : Except Failure Preparation}
    (yields : Yields (prepare configuration root path).run dialogue result)
    (grounded : ∀ reply ∈ dialogue, reply.Grounded services tree) :
    storeCalls dialogue = [] ∧
      ((∃ failure, result = .error failure) ∧
          Obstacle services configuration tree root path dialogue ∨
        ∃ preparation : Preparation, result = .ok preparation ∧
          preparation.Made services configuration tree root path dialogue) := by
  rw [prepare, yields_exceptBind_iff] at yields
  rcases yields with ⟨failure, stopped, rfl⟩ | ⟨dating, lastModified, _, rfl, dated, yields⟩
  · obtain ⟨silent, time⟩ := yields_modifiedMillis stopped grounded
    exact ⟨silent, .inl ⟨⟨failure, rfl⟩, .undated time.symm⟩⟩
  obtain ⟨datingSilent, time⟩ := yields_modifiedMillis dated fun reply member =>
    grounded reply (List.mem_append_left _ member)
  replace grounded := fun reply member => grounded reply (List.mem_append_right _ member)
  rw [yields_exceptBind_iff] at yields
  rcases yields with ⟨failure, stopped, rfl⟩ | ⟨reading, source, _, rfl, opened, yields⟩
  · obtain ⟨silent, text⟩ := yields_readSource stopped grounded
    refine ⟨by simp [datingSilent, silent], .inl ⟨⟨failure, rfl⟩, .unproduced ?_⟩⟩
    simp [bounded?, ← text, Except.toOption]
  obtain ⟨readingSilent, text⟩ := yields_readSource opened fun reply member =>
    grounded reply (List.mem_append_left _ member)
  replace grounded := fun reply member => grounded reply (List.mem_append_right _ member)
  rw [yields_exceptBind_iff] at yields
  rcases yields with ⟨failure, stopped, rfl⟩ | ⟨parsing, parsed, _, rfl, asked, yields⟩
  · obtain rfl := yields_question_iff.mp stopped
    have grammar : .error failure = services.parse path source :=
      grounded ⟨.parse path source, .error failure⟩ (by simp)
    refine ⟨by simp [datingSilent, readingSilent], .inl ⟨⟨failure, rfl⟩, .unproduced ?_⟩⟩
    simp [bounded?, ← text, ← grammar, Except.toOption]
  obtain rfl := yields_question_iff.mp asked
  have grammar : .ok parsed = services.parse path source :=
    grounded ⟨.parse path source, .ok parsed⟩ (by simp)
  rw [yields_exceptBind_iff] at yields
  rcases yields with ⟨failure, stopped, rfl⟩ | ⟨cutting, bounded, _, rfl, cut, yields⟩
  · rcases yields_exceptPure_iff.mp stopped with ⟨rfl, uncut⟩
    refine ⟨by simp [datingSilent, readingSilent], .inl ⟨⟨failure, rfl⟩, .unproduced ?_⟩⟩
    simp [bounded?, ← text, ← grammar, ← uncut, Except.toOption]
  rcases yields_exceptPure_iff.mp cut with ⟨rfl, chunks⟩
  rw [yields_exceptBind_iff] at yields
  rcases yields with ⟨failure, stopped, rfl⟩ | ⟨measuring, embeddings, _, rfl, embedded, finished⟩
  · obtain ⟨silent, -, refusal⟩ := yields_embed stopped
    obtain ⟨reply, said, refused⟩ := refusal rfl
    exact ⟨by simp [datingSilent, readingSilent, silent],
      .inl ⟨⟨failure, rfl⟩, .refused reply (by simp [said]) refused⟩⟩
  · obtain ⟨silent, given, -⟩ := yields_embed embedded
    rcases yields_pure_iff.mp finished with ⟨rfl, rfl⟩
    obtain ⟨paired, measured⟩ := given embeddings rfl
    refine ⟨by simp [datingSilent, readingSilent, silent], .inr ⟨_, rfl, ?_⟩⟩
    exact
      { dated := time.symm
        readable := text.symm
        cut := ⟨parsed, grammar.symm, chunks.symm⟩
        paired := paired
        measured := measured.imp_right fun said => by simp [said] }

theorem yields_commit {needed : Bool} {relativePath : String} {chunks : List Chunk}
    {embeddings : List Embedding} {dialogue : List Reply} {result : Except Failure Unit}
    (yields : Yields (commit needed relativePath chunks embeddings).run dialogue result) :
    Carries (plan needed relativePath chunks embeddings) dialogue result.toBool := by
  rw [commit, yields_exceptBind_iff] at yields
  rcases yields with ⟨failure, stopped, rfl⟩ | ⟨dropping, _, storing, rfl, dropped, stored⟩
  · exact (yields_evict stopped).append_of_refused _
  · exact (yields_evict dropped).append (yields_upsert stored)

/-- What an attempt to index a file comes to, with the calls that it made to the store. -/
theorem yields_ingest {configuration : Configuration} {root path : Path} {indexedBefore : Bool}
    {dialogue : List Reply} {result : Except Failure (Fingerprint × Nat)}
    (yields : Yields (ingest configuration root path indexedBefore).run dialogue result)
    (grounded : ∀ reply ∈ dialogue, reply.Grounded services tree) :
    (∃ failure, result = .error failure ∧ storeCalls dialogue = [] ∧
      Obstacle services configuration tree root path dialogue) ∨
    ∃ preparation : Preparation, ∃ outcome : Except Failure Unit,
      preparation.Commits services configuration tree root path
        (indexedBefore && configuration.evictStale) dialogue outcome.toBool ∧
      result = outcome.map fun _ => preparation.result := by
  rw [ingest_eq, yields_exceptBind_iff] at yields
  rcases yields with ⟨failure, stopped, rfl⟩ | ⟨preparing, preparation, calling, rfl, prepared, yields⟩
  · obtain ⟨silent, ⟨-, obstacle⟩ | ⟨_, impossible, -⟩⟩ := yields_prepare stopped grounded
    · exact .inl ⟨failure, rfl, silent, obstacle⟩
    · cases impossible
  obtain ⟨silent, ⟨⟨_, impossible⟩, -⟩ | ⟨_, same, made⟩⟩ := yields_prepare prepared
    fun reply member => grounded reply (List.mem_append_left _ member)
  · cases impossible
  cases same
  rw [yields_exceptBind_iff] at yields
  rcases yields with ⟨failure, stopped, rfl⟩ | ⟨calling, _, _, rfl, carried, finished⟩
  · exact .inr ⟨preparation, .error failure,
      ⟨preparing, calling, rfl, silent, made, yields_commit stopped⟩, rfl⟩
  · rcases yields_pure_iff.mp finished with ⟨rfl, rfl⟩
    rw [List.append_nil]
    exact .inr ⟨preparation, .ok (),
      ⟨preparing, calling, rfl, silent, made, yields_commit carried⟩, rfl⟩

/-- The work on a file first decides whether the file is due. -/
theorem process_eq (configuration : Configuration) (ledger : Ledger) (root path : Path) :
    process configuration ledger root path =
      (if configuration.force then pure true else Tracking.hasChanged ledger path) >>= fun due =>
        if due then report path <$> (ingest configuration root path (ledger.has path)).run
        else pure ⟨path, .skipped, none, 0⟩ := by
  simp only [process, map_eq_pure_bind]
  split <;> rfl

/-- To find out whether a file is due leaves the store alone. -/
theorem yields_due {configuration : Configuration} {ledger : Ledger} {path : Path}
    {dialogue : List Reply} {due : Bool}
    (yields : Yields (if configuration.force then pure true else Tracking.hasChanged ledger path)
      dialogue due)
    (grounded : ∀ reply ∈ dialogue, reply.Grounded services tree) :
    storeCalls dialogue = [] ∧ due = (configuration.force || ledger.outdated tree path) := by
  cases forced : configuration.force with
  | true =>
      rw [forced, if_pos rfl] at yields
      rcases yields_pure_iff.mp yields with ⟨rfl, rfl⟩
      exact ⟨rfl, rfl⟩
  | false =>
      rw [forced, if_neg Bool.false_ne_true] at yields
      exact yields_hasChanged yields grounded

section Process

variable {configuration : Configuration} {ledger : Ledger} {root path : Path}
  {dialogue : List Reply} {result : FileReport}

/-- The work on a file goes in one of the ways. -/
theorem follows_of_yields
    (yields : Yields (process configuration ledger root path) dialogue result)
    (grounded : ∀ reply ∈ dialogue, reply.Grounded services tree) :
    Follows services configuration tree ledger root path dialogue result := by
  rw [process_eq, yields_bind_iff] at yields
  rcases yields with ⟨asking, due, work, rfl, decided, yields⟩
  obtain ⟨silent, reason⟩ := yields_due decided fun reply member =>
    grounded reply (List.mem_append_left _ member)
  have calls : storeCalls (asking ++ work) = storeCalls work := by
    rw [storeCalls_append, silent, List.nil_append]
  cases due with
  | false =>
      rcases yields_pure_iff.mp yields with ⟨rfl, rfl⟩
      rcases Bool.or_eq_false_iff.mp reason.symm with ⟨unforced, current⟩
      exact .skipped unforced current calls
  | true =>
      replace reason := Bool.or_eq_true_iff.mp reason.symm
      rcases yields_map_iff.mp yields with ⟨attempt, attempted, rfl⟩
      rcases yields_ingest attempted fun reply member =>
        grounded reply (List.mem_append_right _ member) with
        ⟨failure, rfl, unheard, obstacle⟩ | ⟨preparation, outcome, commits, rfl⟩
      · exact .unprepared reason (obstacle.mono (List.subset_append_right _ _))
          (calls.trans unheard) failure
      · cases outcome with
        | error failure => exact .stopped reason preparation (commits.later silent) failure
        | ok => exact .carried reason preparation (commits.later silent)

theorem effects_of_silent (silent : storeCalls dialogue = []) : effects dialogue = [] := by
  rw [← effects_storeCalls, silent, effects_nil]

/-- The work on a file takes one of its courses. -/
theorem course_of_yields
    (yields : Yields (process configuration ledger root path) dialogue result)
    (grounded : ∀ reply ∈ dialogue, reply.Grounded services tree) :
    Course services configuration tree ledger root path result (effects dialogue) := by
  cases follows_of_yields yields grounded with
  | skipped unforced current silent =>
      rw [effects_of_silent silent]
      exact .skipped unforced current
  | unprepared due _ silent failure =>
      rw [effects_of_silent silent]
      exact .failed due _ _
  | stopped due preparation commits failure =>
      rw [← effects_storeCalls]
      rcases commits.carries.cases_plan with ⟨impossible, _⟩ | ⟨_, untouched⟩ | ⟨_, evicted, _, calls⟩
      · cases impossible
      · rw [untouched]
        exact .failed due _ _
      · rw [calls]
        exact .stranded due (by rw [commits.made.dated]; rfl) evicted _ _
  | carried due preparation commits =>
      have made := commits.made
      rw [← effects_storeCalls]
      rcases commits.carries.cases_plan with ⟨_, replaced⟩ | ⟨impossible, _⟩ | ⟨impossible, _⟩
      · rw [replaced]
        exact .processed due made.dated made.readable made.produced made.paired
      · cases impossible
      · cases impossible

/-- A file fails because of an obstacle, and where it fails after its old chunks are gone, because a
call was refused.  Its status is that of the failure. -/
theorem failure_of_yields {status : Status} {message : String}
    (yields : Yields (process configuration ledger root path) dialogue result)
    (grounded : ∀ reply ∈ dialogue, reply.Grounded services tree)
    (failed : result.outcome = .failed status message) :
    ∃ failure, status = Status.ofFailure failure ∧ message = failure.text ∧
      Obstacle services configuration tree root path dialogue ∧
      (effects dialogue ≠ [] → ∃ reply ∈ dialogue, reply.Refused) := by
  cases follows_of_yields yields grounded with
  | skipped => cases failed
  | unprepared _ obstacle silent failure =>
      cases failed
      exact ⟨failure, rfl, rfl, obstacle, fun touched => absurd (effects_of_silent silent) touched⟩
  | stopped _ _ commits failure =>
      cases failed
      obtain ⟨reply, called, refused⟩ := commits.carries.exists_refused
      have said := (List.mem_filter.mp called).1
      exact ⟨failure, rfl, rfl, .refused reply said refused, fun _ => ⟨reply, said, refused⟩⟩
  | carried => cases failed

/-- A file that is processed has its chunks stored with the vectors that were given for them. -/
theorem stored_of_yields {count : Nat}
    (yields : Yields (process configuration ledger root path) dialogue result)
    (grounded : ∀ reply ∈ dialogue, reply.Grounded services tree)
    (processed : result.outcome = .processed count) :
    ∃ lastModified source bounded, ∃ embeddings : List Embedding,
      tree.millis? path = some lastModified ∧ tree.source? path = some source ∧
      bounded? services configuration tree root path = some bounded ∧
      embeddings.length = bounded.chunks.length ∧
      result = report path (.ok (⟨contentHash (utf8Bytes source), lastModified,
        bounded.chunks.length⟩, bounded.dropped)) ∧
      effects dialogue = replacement (evicts configuration ledger path) (relativePath root path)
        bounded.chunks embeddings ∧
      (bounded.chunks = [] ∨
        ⟨.embed (bounded.chunks.map (·.content)), .ok embeddings⟩ ∈ dialogue) := by
  cases follows_of_yields yields grounded with
  | skipped | unprepared | stopped => cases processed
  | carried due preparation commits =>
      have made := commits.made
      refine ⟨_, _, _, _, made.dated, made.readable, made.produced, made.paired, rfl, ?_, made.measured⟩
      rw [← effects_storeCalls]
      rcases commits.carries.cases_plan with ⟨_, replaced⟩ | ⟨impossible, _⟩ | ⟨impossible, _⟩
      · exact replaced
      · cases impossible
      · cases impossible

end Process

end FileJob

end SourceHarvest
