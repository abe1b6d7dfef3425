import SourceHarvest.Ingestion.Run
import SourceHarvest.Proofs.Ingestion.Dialogue
import SourceHarvest.Proofs.Text.Bytes

/-!
# What becomes of one file

Four things can become of a file: it is skipped, it fails and leaves the store alone, it fails
when its old chunks are gone and its new ones are not stored, or it is processed.  Each comes
with what it did to the store.  What is asked of the file tree and of the grammars is answered
by them; the vectors and the store may answer as they like.
-/

namespace SourceHarvest

/-- The time of the last change of a file in milliseconds, where it can be found. -/
def FileTree.millis? (tree : FileTree) (path : Path) : Option Nat :=
  match tree.modified path with
  | .ok time => if time < 0 then none else some (time.toNat % 0x10000000000000000)
  | .error _ => none

/-- The text of a file, where it can be read. -/
def FileTree.source? (tree : FileTree) (path : Path) : Option String :=
  match tree.read path with
  | .ok content => String.fromUTF8? content
  | .error _ => none

/-- A file has a source exactly where it can be read and its bytes are those of the source. -/
theorem FileTree.source?_eq_some_iff {tree : FileTree} {path : Path} {source : String} :
    tree.source? path = some source ↔ tree.read path = .ok source.toUTF8 := by
  rw [source?]
  cases tree.read path with
  | error failure => simp
  | ok content => simp [fromUTF8?_eq_some_iff]

/-- The file has no fingerprint, or was written after it, or its time cannot be found. -/
def Ledger.outdated (ledger : Ledger) (tree : FileTree) (path : Path) : Bool :=
  match ledger.get? path, tree.millis? path with
  | some fingerprint, some current => fingerprint.lastModified < current
  | _, _ => true

/-- What a call did to the store. -/
inductive StoreEffect where
  | evicted (relativePath : String)
  | stored (chunks : List Chunk) (embeddings : List Embedding)
deriving DecidableEq, Repr

/-- What a question did to the store.  A call that fails does nothing to it. -/
def Reply.effect? : Reply → Option StoreEffect
  | ⟨.evict relativePath, answer⟩ =>
      match (answer : Except Failure Unit) with
      | .ok () => some (.evicted relativePath)
      | .error _ => none
  | ⟨.upsert chunks embeddings, answer⟩ =>
      match (answer : Except Failure Unit) with
      | .ok () => some (.stored chunks embeddings)
      | .error _ => none
  | _ => none

/-- What a dialogue did to the store, in order. -/
def effects (dialogue : List Reply) : List StoreEffect :=
  dialogue.filterMap Reply.effect?

@[simp]
theorem effects_nil : effects [] = [] :=
  rfl

@[simp]
theorem effects_append (first second : List Reply) :
    effects (first ++ second) = effects first ++ effects second :=
  List.filterMap_append

theorem effects_cons (reply : Reply) (rest : List Reply) :
    effects (reply :: rest) = reply.effect?.toList ++ effects rest := by
  rw [effects, List.filterMap_cons]
  cases reply.effect? <;> rfl

/-- The question is a call to the store. -/
def Request.isForStore : Request → Bool
  | .evict _ | .upsert .. => true
  | _ => false

/-- The calls to the store in a dialogue. -/
def storeCalls (dialogue : List Reply) : List Reply :=
  dialogue.filter fun reply => reply.request.isForStore

@[simp]
theorem storeCalls_nil : storeCalls [] = [] :=
  rfl

@[simp]
theorem storeCalls_append (first second : List Reply) :
    storeCalls (first ++ second) = storeCalls first ++ storeCalls second :=
  List.filter_append _ _

@[simp]
theorem storeCalls_parse (path : Path) (source : String) (answer : Except Failure ParsedSource)
    (rest : List Reply) : storeCalls (⟨.parse path source, answer⟩ :: rest) = storeCalls rest :=
  rfl

/-- Nothing is done to the store but by calls to it. -/
theorem effects_storeCalls (dialogue : List Reply) :
    effects (storeCalls dialogue) = effects dialogue := by
  rw [effects, storeCalls, List.filterMap_filter, effects]
  refine congrArg (dialogue.filterMap ·) (funext fun reply => ?_)
  rcases reply with ⟨request, answer⟩
  cases request <;> rfl

/-- A call for vectors or to the store failed, or there is not one vector for each text. -/
def Reply.Refused : Reply → Prop
  | ⟨.embed texts, answer⟩ =>
      ∀ embeddings, (answer : Except Failure (List Embedding)) = .ok embeddings →
        embeddings.length ≠ texts.length
  | ⟨.evict _, answer⟩ | ⟨.upsert .., answer⟩ => (answer : Except Failure Unit).toBool = false
  | _ => False

/-- The file tree and the grammars give the answers that they have. -/
def Reply.Grounded {σ : Type} (services : Services σ) (tree : FileTree) : Reply → Prop
  | ⟨.modified path, answer⟩ => answer = tree.modified path
  | ⟨.read path, answer⟩ => answer = tree.read path
  | ⟨.parse path source, answer⟩ => answer = services.parse path source
  | _ => True

namespace FileJob

/-- The chunks that come of a file as it is. -/
def bounded? {σ : Type} (services : Services σ) (configuration : Configuration) (tree : FileTree)
    (root path : Path) : Option BoundedChunks := do
  let source ← tree.source? path
  let parsed ← (services.parse path source).toOption
  (BoundedChunks.ofParsed configuration path (relativePath root path) parsed).toOption

/-- The old chunks of a file are dropped before new ones are stored. -/
def evicts (configuration : Configuration) (ledger : Ledger) (path : Path) : Bool :=
  ledger.has path && configuration.evictStale

/-- What storing the chunks of a file does to the store. -/
def replacement (needed : Bool) (relativePath : String) (chunks : List Chunk)
    (embeddings : List Embedding) : List StoreEffect :=
  (if needed then [.evicted relativePath] else []) ++
    if chunks.isEmpty then [] else [.stored chunks embeddings]

/-- The calls that are to be made for a file: to drop its old chunks where it has some, and to store
new ones if there are any. -/
def plan (needed : Bool) (relativePath : String) (chunks : List Chunk)
    (embeddings : List Embedding) : List Request :=
  (if needed then [.evict relativePath] else []) ++
    if chunks.isEmpty then [] else [.upsert chunks embeddings]

/-- Calls are made one after the other, up to the first that is refused.  They are carried out if none
is. -/
inductive Carries : List Request → List Reply → Bool → Prop where
  | done : Carries [] [] true
  | refused {request : Request} {answer : request.Answer} {rest : List Request}
      (refused : Reply.Refused ⟨request, answer⟩) :
      Carries (request :: rest) [⟨request, answer⟩] false
  | next {request : Request} {answer : request.Answer} {rest : List Request} {calls : List Reply}
      {success : Bool} (granted : ¬ Reply.Refused ⟨request, answer⟩)
      (further : Carries rest calls success) :
      Carries (request :: rest) (⟨request, answer⟩ :: calls) success

/-- What is known of a file when its calls to the store begin. -/
structure Preparation where
  lastModified : Nat
  source : String
  bounded : BoundedChunks
  embeddings : List Embedding

/-- What is reported of a file that was prepared, once its plan is carried out. -/
def Preparation.result (preparation : Preparation) : Fingerprint × Nat :=
  ({ hash := contentHash (utf8Bytes preparation.source)
     lastModified := preparation.lastModified
     chunkCount := preparation.bounded.chunks.length },
    preparation.bounded.dropped)

/-- All of it was found in the tree and made of what was found, and there is one vector for each chunk:
that which was given for its content. -/
structure Preparation.Made {σ : Type} (preparation : Preparation) (services : Services σ)
    (configuration : Configuration) (tree : FileTree) (root path : Path) (dialogue : List Reply) :
    Prop where
  dated : tree.millis? path = some preparation.lastModified
  readable : tree.source? path = some preparation.source
  cut : ∃ parsed, services.parse path preparation.source = .ok parsed ∧
    BoundedChunks.ofParsed configuration path (relativePath root path) parsed =
      .ok preparation.bounded
  paired : preparation.embeddings.length = preparation.bounded.chunks.length
  measured : preparation.bounded.chunks = [] ∨
    ⟨.embed (preparation.bounded.chunks.map (·.content)), .ok preparation.embeddings⟩ ∈ dialogue

namespace Preparation.Made

variable {σ : Type} {services : Services σ} {configuration : Configuration} {tree : FileTree}
  {root path : Path} {said dialogue : List Reply} {preparation : Preparation}

theorem mono (made : preparation.Made services configuration tree root path said)
    (inside : said ⊆ dialogue) :
    preparation.Made services configuration tree root path dialogue :=
  { made with measured := made.measured.imp_right (inside ·) }

theorem produced (made : preparation.Made services configuration tree root path dialogue) :
    bounded? services configuration tree root path = some preparation.bounded := by
  obtain ⟨parsed, grammar, cut⟩ := made.cut
  rw [bounded?, made.readable, Option.bind_eq_bind, Option.bind_some, grammar]
  exact congrArg Except.toOption cut

end Preparation.Made

/-- The file was prepared before the first call to the store, and then the calls were made as planned. -/
def Preparation.Commits {σ : Type} (preparation : Preparation) (services : Services σ)
    (configuration : Configuration) (tree : FileTree) (root path : Path) (needed : Bool)
    (dialogue : List Reply) (success : Bool) : Prop :=
  ∃ said calls, dialogue = said ++ calls ∧ storeCalls said = [] ∧
    preparation.Made services configuration tree root path said ∧
    Carries (plan needed (relativePath root path) preparation.bounded.chunks preparation.embeddings)
      calls success

/-- What keeps a file from being indexed: it has no time, no chunks come of it, or a call is
refused. -/
inductive Obstacle {σ : Type} (services : Services σ) (configuration : Configuration)
    (tree : FileTree) (root path : Path) (dialogue : List Reply) : Prop where
  | undated (undated : tree.millis? path = none) : Obstacle services configuration tree root path dialogue
  | unproduced (unproduced : bounded? services configuration tree root path = none) :
      Obstacle services configuration tree root path dialogue
  | refused (reply : Reply) (said : reply ∈ dialogue) (refused : reply.Refused) :
      Obstacle services configuration tree root path dialogue

theorem Obstacle.mono {σ : Type} {services : Services σ} {configuration : Configuration}
    {tree : FileTree} {root path : Path} {said dialogue : List Reply}
    (obstacle : Obstacle services configuration tree root path said) (inside : said ⊆ dialogue) :
    Obstacle services configuration tree root path dialogue := by
  cases obstacle with
  | undated undated => exact .undated undated
  | unproduced unproduced => exact .unproduced unproduced
  | refused reply heard refused => exact .refused reply (inside heard) refused

/-- How the work on a file goes: the report on it, with all calls that it makes to the store.  There
is none before the file is prepared, and then they are made as planned. -/
inductive Follows {σ : Type} (services : Services σ) (configuration : Configuration)
    (tree : FileTree) (ledger : Ledger) (root path : Path) (dialogue : List Reply) :
    FileReport → Prop where
  | skipped (unforced : configuration.force = false) (current : ledger.outdated tree path = false)
      (silent : storeCalls dialogue = []) :
      Follows services configuration tree ledger root path dialogue ⟨path, .skipped, none, 0⟩
  | unprepared (due : configuration.force = true ∨ ledger.outdated tree path = true)
      (obstacle : Obstacle services configuration tree root path dialogue)
      (silent : storeCalls dialogue = []) (failure : Failure) :
      Follows services configuration tree ledger root path dialogue (report path (.error failure))
  | stopped (due : configuration.force = true ∨ ledger.outdated tree path = true)
      (preparation : Preparation)
      (commits : preparation.Commits services configuration tree root path
        (evicts configuration ledger path) dialogue false)
      (failure : Failure) :
      Follows services configuration tree ledger root path dialogue (report path (.error failure))
  | carried (due : configuration.force = true ∨ ledger.outdated tree path = true)
      (preparation : Preparation)
      (commits : preparation.Commits services configuration tree root path
        (evicts configuration ledger path) dialogue true) :
      Follows services configuration tree ledger root path dialogue
        (report path (.ok preparation.result))

/-- What can become of a file: its report, and what happened to the store. -/
inductive Course {σ : Type} (services : Services σ) (configuration : Configuration)
    (tree : FileTree) (ledger : Ledger) (root path : Path) :
    FileReport → List StoreEffect → Prop where
  | skipped (unforced : configuration.force = false)
      (current : ledger.outdated tree path = false) :
      Course services configuration tree ledger root path ⟨path, .skipped, none, 0⟩ []
  | failed (due : configuration.force = true ∨ ledger.outdated tree path = true)
      (status : Status) (message : String) :
      Course services configuration tree ledger root path
        ⟨path, .failed status message, none, 0⟩ []
  | stranded (due : configuration.force = true ∨ ledger.outdated tree path = true)
      (dated : (tree.millis? path).isSome) (evicted : evicts configuration ledger path = true)
      (status : Status) (message : String) :
      Course services configuration tree ledger root path
        ⟨path, .failed status message, none, 0⟩ [.evicted (relativePath root path)]
  | processed (due : configuration.force = true ∨ ledger.outdated tree path = true)
      {lastModified : Nat} (dated : tree.millis? path = some lastModified)
      {source : String} (readable : tree.source? path = some source)
      {bounded : BoundedChunks} (produced : bounded? services configuration tree root path = some bounded)
      {embeddings : List Embedding} (paired : embeddings.length = bounded.chunks.length) :
      Course services configuration tree ledger root path
        { path
          outcome := .processed bounded.chunks.length
          fingerprint := some ⟨contentHash (utf8Bytes source), lastModified, bounded.chunks.length⟩
          dropped := bounded.dropped }
        (replacement (evicts configuration ledger path) (relativePath root path) bounded.chunks
          embeddings)

/-! ## What a course tells of its report -/

/-- Old chunks are dropped as planned, or the new ones are stored. -/
theorem mem_replacement {needed : Bool} {relativePath : String} {chunks : List Chunk}
    {embeddings : List Embedding} {effect : StoreEffect}
    (member : effect ∈ replacement needed relativePath chunks embeddings) :
    needed = true ∧ effect = .evicted relativePath ∨ effect = .stored chunks embeddings := by
  rw [replacement] at member
  rcases List.mem_append.mp member with dropped | stored
  · split at dropped
    · exact .inl ⟨‹_›, List.mem_singleton.mp dropped⟩
    · cases dropped
  · split at stored
    · cases stored
    · exact .inr (List.mem_singleton.mp stored)

namespace Course

variable {σ : Type} {services : Services σ} {configuration : Configuration} {tree : FileTree}
  {ledger : Ledger} {root path : Path} {report : FileReport} {done : List StoreEffect}

/-- The report on a file bears its path. -/
theorem path_eq (course : Course services configuration tree ledger root path report done) :
    report.path = path := by
  cases course <;> rfl

/-- Exactly the files are skipped that are up to date where nothing is forced. -/
theorem skipped_iff (course : Course services configuration tree ledger root path report done) :
    report.outcome = .skipped ↔
      configuration.force = false ∧ ledger.outdated tree path = false := by
  cases course with
  | skipped unforced current => exact ⟨fun _ => ⟨unforced, current⟩, fun _ => rfl⟩
  | failed due | stranded due | processed due =>
      constructor
      · intro impossible
        cases impossible
      · rintro ⟨unforced, current⟩
        rw [unforced, current] at due
        rcases due with impossible | impossible <;> cases impossible

/-- A file that is skipped gets no fingerprint, and the store is left alone. -/
theorem of_skipped (course : Course services configuration tree ledger root path report done)
    (skipped : report.outcome = .skipped) : report.fingerprint = none ∧ done = [] := by
  cases course with
  | skipped => exact ⟨rfl, rfl⟩
  | failed | stranded | processed => cases skipped

/-- A file that fails was due and gets no fingerprint.  The store is left alone, or the old chunks
are dropped as planned. -/
theorem of_failed (course : Course services configuration tree ledger root path report done)
    {status : Status} {message : String} (failed : report.outcome = .failed status message) :
    (configuration.force = true ∨ ledger.outdated tree path = true) ∧ report.fingerprint = none ∧
      (done = [] ∨ (tree.millis? path).isSome ∧ evicts configuration ledger path = true ∧
        done = [.evicted (relativePath root path)]) := by
  cases course with
  | skipped | processed => cases failed
  | failed due => exact ⟨due, rfl, .inl rfl⟩
  | stranded due dated evicted => exact ⟨due, rfl, .inr ⟨dated, evicted, rfl⟩⟩

/-- A file that is processed has its chunks stored in place of the old ones, and gets a fingerprint of
what was read. -/
theorem of_processed (course : Course services configuration tree ledger root path report done)
    {count : Nat} (processed : report.outcome = .processed count) :
    ∃ lastModified source bounded, ∃ embeddings : List Embedding,
      tree.millis? path = some lastModified ∧ tree.source? path = some source ∧
      bounded? services configuration tree root path = some bounded ∧
      embeddings.length = bounded.chunks.length ∧ count = bounded.chunks.length ∧
      report.fingerprint = some ⟨contentHash (utf8Bytes source), lastModified, count⟩ ∧
      done = replacement (evicts configuration ledger path) (relativePath root path)
        bounded.chunks embeddings := by
  cases course with
  | skipped | failed | stranded => cases processed
  | processed _ dated readable produced paired =>
      cases processed
      exact ⟨_, _, _, _, dated, readable, produced, paired, rfl, rfl, rfl⟩

/-- Only a file that was processed gets a fingerprint. -/
theorem exists_processed_of_fingerprint
    (course : Course services configuration tree ledger root path report done)
    {fingerprint : Fingerprint} (marked : report.fingerprint = some fingerprint) :
    ∃ count, report.outcome = .processed count := by
  cases course with
  | skipped | failed | stranded => cases marked
  | processed => exact ⟨_, rfl⟩

/-- Whatever becomes of a file, the store drops its old chunks as planned, or stores new ones with a
vector for each. -/
theorem effect_cases (course : Course services configuration tree ledger root path report done)
    {effect : StoreEffect} (member : effect ∈ done) :
    (evicts configuration ledger path = true ∧ effect = .evicted (relativePath root path)) ∨
      ∃ bounded, ∃ embeddings : List Embedding,
        bounded? services configuration tree root path = some bounded ∧
        embeddings.length = bounded.chunks.length ∧ effect = .stored bounded.chunks embeddings := by
  cases course with
  | skipped | failed => cases member
  | stranded _ _ evicted => exact .inl ⟨evicted, List.mem_singleton.mp member⟩
  | processed _ _ _ produced paired =>
      rcases mem_replacement member with dropped | stored
      · exact .inl dropped
      · exact .inr ⟨_, _, produced, paired, stored⟩

end Course

/-! ## The calls to the store, as they are planned -/

variable {σ : Type} {services : Services σ} {tree : FileTree}

namespace Carries

variable {requests others : List Request} {calls further : List Reply} {success : Bool}

/-- What was planned behind a call that is refused is not done. -/
theorem append_of_refused (carries : Carries requests calls false) (others : List Request) :
    Carries (requests ++ others) calls false := by
  generalize failed : false = success at carries
  induction carries with
  | done => cases failed
  | refused refused => exact .refused refused
  | next granted _ inductionHypothesis => exact .next granted (inductionHypothesis failed)

theorem append (carries : Carries requests calls true) (later : Carries others further success) :
    Carries (requests ++ others) (calls ++ further) success := by
  generalize succeeded : true = done at carries
  induction carries with
  | done => exact later
  | refused => cases succeeded
  | next granted _ inductionHypothesis => exact .next granted (inductionHypothesis succeeded)

/-- The calls that are made are the first of those that were planned. -/
theorem isPrefix (carries : Carries requests calls success) :
    calls.map (·.request) <+: requests := by
  induction carries with
  | done => exact List.prefix_refl _
  | refused => exact List.prefix_append [_] _
  | next _ _ inductionHypothesis => exact (List.prefix_cons_inj _).mpr inductionHypothesis

theorem exists_refused (carries : Carries requests calls false) : ∃ reply ∈ calls, reply.Refused := by
  generalize failed : false = success at carries
  induction carries with
  | done => cases failed
  | refused refused => exact ⟨_, List.mem_singleton_self _, refused⟩
  | next _ _ inductionHypothesis =>
      obtain ⟨reply, called, refused⟩ := inductionHypothesis failed
      exact ⟨reply, List.mem_cons_of_mem _ called, refused⟩

theorem isForStore_of_mem_plan {needed : Bool} {relativePath : String} {chunks : List Chunk}
    {embeddings : List Embedding} {request : Request}
    (member : request ∈ plan needed relativePath chunks embeddings) : request.isForStore = true := by
  rcases List.mem_append.mp member with dropping | storing
  · split at dropping
    · obtain rfl := List.mem_singleton.mp dropping
      rfl
    · cases dropping
  · split at storing
    · cases storing
    · obtain rfl := List.mem_singleton.mp storing
      rfl

/-- All calls that are made as planned are to the store. -/
theorem storeCalls_eq {needed : Bool} {relativePath : String} {chunks : List Chunk}
    {embeddings : List Embedding}
    (carries : Carries (plan needed relativePath chunks embeddings) calls success) :
    storeCalls calls = calls :=
  List.filter_eq_self.mpr fun _ member =>
    isForStore_of_mem_plan (carries.isPrefix.subset (List.mem_map_of_mem member))

/-- What is planned to be stored is stored or refused. -/
theorem cases_upsert {chunks : List Chunk} {embeddings : List Embedding}
    (carries : Carries (if chunks.isEmpty then [] else [.upsert chunks embeddings]) calls success) :
    (success = true ∧ effects calls = if chunks.isEmpty then [] else [.stored chunks embeddings]) ∨
      success = false ∧ ∃ failure : Failure, calls = [⟨.upsert chunks embeddings, .error failure⟩] := by
  split at carries
  · rename_i none
    rw [if_pos none]
    cases carries
    exact .inl ⟨rfl, rfl⟩
  · rename_i some
    rw [if_neg some]
    cases carries with
    | @refused _ answer _ refused =>
        cases (answer : Except Failure Unit) with
        | ok => cases refused
        | error failure => exact .inr ⟨rfl, failure, rfl⟩
    | @next _ answer _ _ _ granted further =>
        cases further
        cases (answer : Except Failure Unit) with
        | ok => exact .inl ⟨rfl, rfl⟩
        | error => exact absurd rfl granted

/-- A plan for a file is carried out; or it is left at the first call that is refused, and the store
as it is, but for old chunks that are dropped before the new ones are refused. -/
theorem cases_plan {needed : Bool} {relativePath : String} {chunks : List Chunk}
    {embeddings : List Embedding}
    (carries : Carries (plan needed relativePath chunks embeddings) calls success) :
    (success = true ∧ effects calls = replacement needed relativePath chunks embeddings) ∨
    (success = false ∧ effects calls = []) ∨
    (success = false ∧ needed = true ∧ ∃ failure : Failure,
      calls = [⟨.evict relativePath, .ok ()⟩, ⟨.upsert chunks embeddings, .error failure⟩]) := by
  cases needed with
  | false =>
      rcases cases_upsert carries with ⟨done, stored⟩ | ⟨failed, failure, rfl⟩
      · exact .inl ⟨done, stored⟩
      · exact .inr (.inl ⟨failed, rfl⟩)
  | true =>
      cases carries with
      | @refused _ answer _ refused =>
          refine .inr (.inl ⟨rfl, ?_⟩)
          cases (answer : Except Failure Unit) with
          | ok => cases refused
          | error => rfl
      | @next _ answer _ rest _ granted further =>
          cases (answer : Except Failure Unit) with
          | error => exact absurd rfl granted
          | ok =>
              rcases cases_upsert further with ⟨done, stored⟩ | ⟨failed, failure, rfl⟩
              · refine .inl ⟨done, ?_⟩
                rw [replacement, ← stored]
                rfl
              · exact .inr (.inr ⟨failed, rfl, failure, rfl⟩)

end Carries

namespace Preparation.Commits

variable {configuration : Configuration} {root path : Path} {preparation : Preparation}
  {needed success : Bool} {earlier dialogue : List Reply}

theorem made
    (commits : preparation.Commits services configuration tree root path needed dialogue success) :
    preparation.Made services configuration tree root path dialogue := by
  obtain ⟨said, calls, rfl, _, made, _⟩ := commits
  exact made.mono (List.subset_append_left _ _)

/-- There are no calls to the store but those that were planned. -/
theorem carries
    (commits : preparation.Commits services configuration tree root path needed dialogue success) :
    Carries (plan needed (relativePath root path) preparation.bounded.chunks preparation.embeddings)
      (storeCalls dialogue) success := by
  obtain ⟨said, calls, rfl, silent, _, carries⟩ := commits
  rw [storeCalls_append, silent, List.nil_append, carries.storeCalls_eq]
  exact carries

theorem later
    (commits : preparation.Commits services configuration tree root path needed dialogue success)
    (silent : storeCalls earlier = []) :
    preparation.Commits services configuration tree root path needed (earlier ++ dialogue) success := by
  obtain ⟨said, calls, rfl, unheard, made, carries⟩ := commits
  refine ⟨earlier ++ said, calls, (List.append_assoc _ _ _).symm, ?_,
    made.mono (List.subset_append_right _ _), carries⟩
  rw [storeCalls_append, silent, unheard, List.nil_append]

end Preparation.Commits

end FileJob

end SourceHarvest
