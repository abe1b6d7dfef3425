import SourceHarvest.Proofs.Fingerprint.Order
import SourceHarvest.Proofs.Ingestion.Processing
import SourceHarvest.Proofs.Ingestion.Turns

/-!
# The account of a run

An account of a run says of every file along which dialogue it was worked on and with
which report, in which order the reports were taken in, and what the world was like in
between.  Every run that succeeds has one, whatever its batches and their schedules.
-/

namespace SourceHarvest

namespace Ledger

/-- Take in the fingerprint of a report, if it has one. -/
def absorb (ledger : Ledger) (report : FileReport) : Ledger :=
  match report.fingerprint with
  | some fingerprint => ledger.record report.path fingerprint
  | none => ledger

/-- Take in reports in their order. -/
def absorbAll (ledger : Ledger) (reports : List FileReport) : Ledger :=
  reports.foldl absorb ledger

theorem get?_absorb_other {report : FileReport} {path : Path} (distinct : path ≠ report.path)
    (ledger : Ledger) : (ledger.absorb report).get? path = ledger.get? path := by
  rw [absorb]
  split
  · exact get?_record_other distinct ledger _
  · rfl

theorem get?_absorb_self (ledger : Ledger) (report : FileReport) :
    (ledger.absorb report).get? report.path =
      report.fingerprint.or (ledger.get? report.path) := by
  rw [absorb]
  split
  · rename_i fingerprint given
    simp [given, get?_record_self]
  · rename_i given
    simp [given]

/-- Each file that is reported on once has the fingerprint of its report, and its old one
where the report has none. -/
theorem get?_absorbAll {report : Path → FileReport} {order : List Path} (distinct : order.Nodup)
    (named : ∀ path ∈ order, (report path).path = path) (ledger : Ledger) (path : Path) :
    (ledger.absorbAll (order.map report)).get? path =
      if path ∈ order then (report path).fingerprint.or (ledger.get? path)
      else ledger.get? path := by
  induction order generalizing ledger with
  | nil => simp [absorbAll]
  | cons first rest inductionHypothesis =>
      rcases List.nodup_cons.mp distinct with ⟨fresh, restDistinct⟩
      have firstNamed := named first List.mem_cons_self
      rw [List.map_cons, absorbAll, List.foldl_cons, ← absorbAll, inductionHypothesis restDistinct
        (fun path member => named path (List.mem_cons_of_mem _ member))]
      by_cases same : path = first
      · subst same
        have here := get?_absorb_self ledger (report path)
        rw [firstNamed] at here
        simp [fresh, here]
      · rw [get?_absorb_other (by rw [firstNamed]; exact same)]
        simp [same]

end Ledger

/-- The tree after records were added to the log of a session. -/
def Session.logged (session : Session) (records : List OutcomeRecord) (tree : FileTree) : FileTree :=
  match session.log with
  | some path => records.foldl (OutcomeLog.add path) tree
  | none => tree

namespace Session

variable (session : Session)

@[simp]
theorem logged_nil (tree : FileTree) : session.logged [] tree = tree := by
  rw [logged]
  split <;> rfl

theorem logged_append (first second : List OutcomeRecord) (tree : FileTree) :
    session.logged (first ++ second) tree = session.logged second (session.logged first tree) := by
  simp only [logged]
  split
  · exact List.foldl_append
  · rfl

end Session

/-- Keeping records adds them to the world and to the log of the session. -/
theorem Action.foldl_keepRecord {σ : Type} (session : Session) (records : List OutcomeRecord)
    (world : World σ) :
    records.foldl (Action.keepRecord session) world =
      { world with
        records := world.records ++ records
        tree := session.logged records world.tree } := by
  induction records generalizing world with
  | nil => simp
  | cons record rest inductionHypothesis =>
      have single : session.logged [record] world.tree =
          (Action.keepRecord session world record).tree := by
        simp only [Session.logged, Action.keepRecord]
        cases session.log <;> rfl
      rw [List.foldl_cons, inductionHypothesis, ← List.singleton_append (l := rest),
        session.logged_append, single]
      simp [Action.keepRecord]

/-! ## What the services hear -/

namespace Services

variable {σ : Type} {services : Services σ}

/-- The services hear one question: they give its answer and are in another state after it. -/
def Hears (services : Services σ) (remote : σ) : Reply → σ → Prop
  | ⟨.embed texts, answer⟩, next => services.embed texts remote = (answer, next)
  | ⟨.evict relativePath, answer⟩, next => services.deleteFile relativePath remote = (answer, next)
  | ⟨.upsert chunks embeddings, answer⟩, next =>
      services.upsert chunks embeddings remote = (answer, next)
  | _, next => next = remote

/-- The services hear the questions of a dialogue in order. -/
def HearsAll (services : Services σ) : σ → List Reply → σ → Prop
  | remote, [], final => final = remote
  | remote, reply :: rest, final =>
      ∃ next, services.Hears remote reply next ∧ services.HearsAll next rest final

theorem hearsAll_append {remote middle final : σ} {first second : List Reply}
    (earlier : services.HearsAll remote first middle)
    (later : services.HearsAll middle second final) :
    services.HearsAll remote (first ++ second) final := by
  induction first generalizing remote with
  | nil =>
      obtain rfl : middle = remote := earlier
      exact later
  | cons reply rest inductionHypothesis =>
      rcases earlier with ⟨next, here, further⟩
      exact ⟨next, here, inductionHypothesis further⟩

/-- Between the parts of a dialogue the services are in some state. -/
theorem exists_hearsAll_of_append {remote final : σ} {first second : List Reply}
    (hears : services.HearsAll remote (first ++ second) final) :
    ∃ middle, services.HearsAll remote first middle ∧ services.HearsAll middle second final := by
  induction first generalizing remote with
  | nil => exact ⟨remote, rfl, hears⟩
  | cons reply rest inductionHypothesis =>
      obtain ⟨next, here, further⟩ := hears
      obtain ⟨middle, earlier, later⟩ := inductionHypothesis further
      exact ⟨middle, ⟨next, here, earlier⟩, later⟩

/-- One question leaves the tree and the records alone, and is answered by whom it is for. -/
theorem answer_spec (services : Services σ) (request : Request) (world : World σ) :
    (services.answer request world).2.tree = world.tree ∧
      (services.answer request world).2.records = world.records ∧
      services.Hears world.remote ⟨request, (services.answer request world).1⟩
        (services.answer request world).2.remote ∧
      Reply.Grounded services world.tree ⟨request, (services.answer request world).1⟩ := by
  cases request with
  | modified | read | parse => exact ⟨rfl, rfl, rfl, rfl⟩
  | embed | evict | upsert => exact ⟨rfl, rfl, rfl, trivial⟩

/-- A dialogue leaves the tree and the records alone, and is answered by whom it is for. -/
theorem plays_answer {dialogue : List Reply} {world final : World σ}
    (plays : Plays services.answer world dialogue final) :
    final.tree = world.tree ∧ final.records = world.records ∧
      services.HearsAll world.remote dialogue final.remote ∧
      ∀ reply ∈ dialogue, reply.Grounded services world.tree := by
  induction dialogue generalizing world with
  | nil =>
      obtain rfl : world = final := plays
      exact ⟨rfl, rfl, rfl, fun _ impossible => by cases impossible⟩
  | cons reply rest inductionHypothesis =>
      rcases reply with ⟨request, found⟩
      rcases plays with ⟨said, later⟩
      simp only at said later
      subst said
      obtain ⟨sameTree, sameRecords, heard, grounded⟩ :=
        answer_spec services request world
      rcases inductionHypothesis later with ⟨tree, records, hears, rooted⟩
      refine ⟨tree.trans sameTree, records.trans sameRecords, ⟨_, heard, hears⟩, ?_⟩
      intro reply member
      rcases List.mem_cons.mp member with rfl | member
      · exact grounded
      · exact sameTree ▸ rooted reply member

end Services

/-! ## The work on several files -/

namespace FileJob

/-- The work on a file looks at the fingerprint of that file and at no other. -/
theorem process_congr (configuration : Configuration) {left right : Ledger} (root : Path)
    {path : Path} (same : left.get? path = right.get? path) :
    process configuration left root path = process configuration right root path := by
  simp only [process, Tracking.hasChanged, Ledger.has, same]

/-- The work on a file does not depend on how files are put together in batches. -/
theorem process_batching (configuration : Configuration) (ledger : Ledger) (root path : Path)
    (batchSize concurrency : Nat) :
    process { configuration with batchSize, concurrency } ledger root path =
      process configuration ledger root path :=
  rfl

end FileJob

namespace Ingestion

variable {σ : Type}

/-- How the work on some files went: in which order they were done, what was reported on each,
what was said, and which tree each of them saw. -/
structure Proceedings where
  order : List Path
  report : Path → FileReport
  history : List (Path × Reply)
  seen : Path → FileTree

namespace Proceedings

/-- The reports on the files, in the order in which they were done. -/
def reports (proceedings : Proceedings) : List FileReport :=
  proceedings.order.map proceedings.report

/-- The records of the files, in the order in which they were done. -/
def records (proceedings : Proceedings) (session : Session) : List OutcomeRecord :=
  proceedings.reports.map (·.record session)

/-- What was said about one file. -/
def dialogue (proceedings : Proceedings) (path : Path) : List Reply :=
  spokenBy path proceedings.history

/-- The proceedings tell how the work on some files, which saw the fingerprints of a ledger,
led from one world to another. -/
structure Describe (proceedings : Proceedings) (services : Services σ) (session : Session)
    (configuration : Configuration) (ledger : Ledger) (root : Path) (files : List Path)
    (before after : World σ) : Prop where
  order : proceedings.order.Perm files
  marked : ∀ spoken ∈ proceedings.history, spoken.1 ∈ files
  hears : services.HearsAll before.remote (proceedings.history.map (·.2)) after.remote
  /-- Each file went its way along its own part of what was said. -/
  yields : ∀ path ∈ files, (FileJob.process configuration ledger root path).Yields
    (proceedings.dialogue path) (proceedings.report path)
  /-- Each file saw one tree, which differs from the first one by records in the log alone. -/
  grounded : ∀ path ∈ files, ∀ reply ∈ proceedings.dialogue path,
    reply.Grounded services (proceedings.seen path)
  seen : ∀ path ∈ files, ∃ count,
    proceedings.seen path = session.logged ((proceedings.records session).take count) before.tree
  records : after.records = before.records ++ proceedings.records session
  tree : after.tree = session.logged (proceedings.records session) before.tree

variable {services : Services σ} {session : Session} {configuration : Configuration}
  {ledger : Ledger} {root : Path} {files : List Path} {before after : World σ}
  {proceedings : Proceedings}

/-- Each file takes its course, with what was done to the store on its behalf. -/
theorem Describe.course
    (describe : proceedings.Describe services session configuration ledger root files before after)
    {path : Path} (member : path ∈ files) :
    FileJob.Course services configuration (proceedings.seen path) ledger root path
      (proceedings.report path) (effects (proceedings.dialogue path)) :=
  FileJob.course_of_yields (describe.yields path member) (describe.grounded path member)

theorem Describe.report_path
    (describe : proceedings.Describe services session configuration ledger root files before after)
    {path : Path} (member : path ∈ files) : (proceedings.report path).path = path :=
  (describe.course member).path_eq

/-- The records bear the paths of the files, each of them once. -/
theorem Describe.paths_records
    (describe : proceedings.Describe services session configuration ledger root files before after) :
    ((proceedings.records session).map (·.path)).Perm (files.map (·.text)) := by
  have order := describe.order
  rw [Proceedings.records, Proceedings.reports, List.map_map, List.map_map]
  refine (List.Perm.of_eq (List.map_congr_left fun path member => ?_)).trans (order.map _)
  exact congrArg Path.text (describe.report_path (order.mem_iff.mp member))

/-- A ledger that takes in the reports has the new fingerprints of the files, and else what it had. -/
theorem Describe.get?_absorbAll
    (describe : proceedings.Describe services session configuration ledger root files before after)
    (distinct : files.Nodup) (known : Ledger) (path : Path) :
    (known.absorbAll proceedings.reports).get? path =
      if path ∈ files then (proceedings.report path).fingerprint.or (known.get? path)
      else known.get? path := by
  have order := describe.order
  rw [reports, Ledger.get?_absorbAll (order.symm.nodup distinct)
    fun path member => describe.report_path (order.mem_iff.mp member)]
  simp only [order.mem_iff]

/-- What is known of the fingerprints of the files is enough to tell how the work went. -/
theorem Describe.of_ledger {other : Ledger}
    (describe : proceedings.Describe services session configuration ledger root files before after)
    (same : ∀ path ∈ files, ledger.get? path = other.get? path) :
    proceedings.Describe services session configuration other root files before after :=
  { describe with
    yields := fun path member =>
      FileJob.process_congr configuration root (same path member) ▸ describe.yields path member }

/-- Nothing happens where there are no files. -/
def none (tree : FileTree) (fallback : Path → FileReport) : Proceedings :=
  ⟨[], fallback, [], fun _ => tree⟩

theorem describe_none (fallback : Path → FileReport) (world : World σ) :
    (none world.tree fallback).Describe services session configuration ledger root [] world world where
  order := List.Perm.refl _
  marked _ impossible := by cases impossible
  hears := rfl
  yields _ impossible := by cases impossible
  grounded _ impossible := by cases impossible
  seen _ impossible := by cases impossible
  records := by simp [records, reports, none]
  tree := by simp [records, reports, none]

/-- Work on some files, and then on others. -/
def andThen (first second : Proceedings) (files : List Path) : Proceedings where
  order := first.order ++ second.order
  report path := if path ∈ files then first.report path else second.report path
  history := first.history ++ second.history
  seen path := if path ∈ files then first.seen path else second.seen path

section AndThen

variable {first second : Proceedings} {others : List Path} {middle : World σ}

theorem reports_andThen
    (earlier : first.Describe services session configuration ledger root files before middle)
    (later : second.Describe services session configuration ledger root others middle after)
    (apart : files.Disjoint others) :
    (first.andThen second files).reports = first.reports ++ second.reports := by
  simp only [reports, andThen, List.map_append]
  congr 1
  · apply List.map_congr_left
    intro path member
    rw [if_pos (earlier.order.mem_iff.mp member)]
  · apply List.map_congr_left
    intro path member
    rw [if_neg fun inside => apart inside (later.order.mem_iff.mp member)]

theorem records_andThen
    (earlier : first.Describe services session configuration ledger root files before middle)
    (later : second.Describe services session configuration ledger root others middle after)
    (apart : files.Disjoint others) :
    (first.andThen second files).records session =
      first.records session ++ second.records session := by
  rw [records, reports_andThen earlier later apart, List.map_append, records, records]

theorem dialogue_andThen_left
    (later : second.Describe services session configuration ledger root others middle after)
    (apart : files.Disjoint others) {path : Path} (member : path ∈ files) :
    (first.andThen second files).dialogue path = first.dialogue path := by
  have silent : spokenBy path second.history = [] := spokenBy_eq_nil fun spoken inside same =>
    apart member (same ▸ later.marked spoken inside)
  simp [dialogue, andThen, silent]

theorem dialogue_andThen_right
    (earlier : first.Describe services session configuration ledger root files before middle)
    (apart : files.Disjoint others) {path : Path} (member : path ∈ others) :
    (first.andThen second files).dialogue path = second.dialogue path := by
  have silent : spokenBy path first.history = [] := spokenBy_eq_nil fun spoken inside same =>
    apart (same ▸ earlier.marked spoken inside) member
  simp [dialogue, andThen, silent]

/-- Proceedings over different files go together. -/
theorem Describe.andThen
    (earlier : first.Describe services session configuration ledger root files before middle)
    (later : second.Describe services session configuration ledger root others middle after)
    (apart : files.Disjoint others) :
    (first.andThen second files).Describe services session configuration ledger root
      (files ++ others) before after where
  order := earlier.order.append later.order
  marked spoken member := by
    rcases List.mem_append.mp member with inFirst | inSecond
    · exact List.mem_append_left _ (earlier.marked spoken inFirst)
    · exact List.mem_append_right _ (later.marked spoken inSecond)
  hears := by
    rw [Proceedings.andThen, List.map_append]
    exact Services.hearsAll_append earlier.hears later.hears
  yields path member := by
    rcases List.mem_append.mp member with inFirst | inSecond
    · rw [dialogue_andThen_left later apart inFirst, Proceedings.andThen]
      simpa only [if_pos inFirst] using earlier.yields path inFirst
    · have outside : path ∉ files := fun inside => apart inside inSecond
      rw [dialogue_andThen_right earlier apart inSecond, Proceedings.andThen]
      simpa only [if_neg outside] using later.yields path inSecond
  grounded path member := by
    rcases List.mem_append.mp member with inFirst | inSecond
    · rw [dialogue_andThen_left later apart inFirst, Proceedings.andThen]
      simpa only [if_pos inFirst] using earlier.grounded path inFirst
    · have outside : path ∉ files := fun inside => apart inside inSecond
      rw [dialogue_andThen_right earlier apart inSecond, Proceedings.andThen]
      simpa only [if_neg outside] using later.grounded path inSecond
  seen path member := by
    rw [records_andThen earlier later apart]
    rcases List.mem_append.mp member with inFirst | inSecond
    · rcases earlier.seen path inFirst with ⟨count, seen⟩
      refine ⟨min count (first.records session).length, ?_⟩
      rw [Proceedings.andThen]
      simp only [if_pos inFirst, seen]
      rw [List.take_append_of_le_length (Nat.min_le_right _ _), ← List.take_take,
        List.take_length]
    · have outside : path ∉ files := fun inside => apart inside inSecond
      rcases later.seen path inSecond with ⟨count, seen⟩
      refine ⟨(first.records session).length + count, ?_⟩
      rw [Proceedings.andThen]
      simp only [if_neg outside, seen]
      rw [List.take_length_add_append, session.logged_append, ← earlier.tree]
  records := by
    rw [records_andThen earlier later apart, later.records, earlier.records, List.append_assoc]
  tree := by
    rw [records_andThen earlier later apart, session.logged_append, ← earlier.tree, later.tree]

end AndThen

end Proceedings

/-! ## Batches -/

instance : Nonempty FileReport :=
  ⟨⟨⟨""⟩, .skipped, none, 0⟩⟩

section Batches

variable (services : Services σ) (session : Session) (configuration : Configuration)
  (ledger : Ledger) (root : Path)

/-- The sums of a run and its fingerprints take in reports side by side. -/
theorem foldl_absorb (reports : List FileReport) (progress : Progress) :
    reports.foldl Progress.absorb progress =
      ⟨reports.foldl RunSummary.absorb progress.summary,
        reports.foldl Ledger.absorb progress.ledger⟩ := by
  induction reports generalizing progress with
  | nil => rfl
  | cons report rest inductionHypothesis => exact inductionHypothesis (progress.absorb report)

/-- What a run knows after it has taken in the reports of proceedings. -/
def Progress.after (progress : Progress) (proceedings : Proceedings) : Progress where
  summary := proceedings.reports.foldl RunSummary.absorb progress.summary
  ledger := progress.ledger.absorbAll proceedings.reports

/-- Where reports bear the paths of their files, the order of the reports is one of the files. -/
theorem order_of_reports {files : List Path} {report : Path → FileReport} {found : List FileReport}
    (results : found.Perm (files.map report)) (named : ∀ path ∈ files, (report path).path = path) :
    (found.map (·.path)).Perm files ∧ (found.map (·.path)).map report = found := by
  constructor
  · refine (results.map (·.path)).trans (List.Perm.of_eq ?_)
    rw [List.map_map]
    exact (List.map_congr_left named).trans (List.map_id _)
  · rw [List.map_map]
    refine (List.map_congr_left fun told member => ?_).trans (List.map_id _)
    rcases List.mem_map.mp (results.mem_iff.mp member) with ⟨path, inside, rfl⟩
    simp only [Function.comp_apply, named path inside, id_eq]

/-- Work on one batch has proceedings. -/
theorem exists_describe_runBatch {files : List Path} (distinct : files.Nodup) (number : Nat)
    (progress : Progress) (before : World σ) :
    ∃ proceedings : Proceedings,
      proceedings.Describe services session configuration progress.ledger root files before
        (runBatch services session configuration root (files, number) progress before).2 ∧
      (runBatch services session configuration root (files, number) progress before).1 =
        progress.after proceedings := by
  let task (path : Path) := (path, FileJob.process configuration progress.ledger root path)
  have names : (files.map task).map (·.1) = files := by simp [task, Function.comp_def]
  have jobs : (files.map task).map (·.2) =
      files.map (FileJob.process configuration progress.ledger root) := by
    simp [task, Function.comp_def]
  obtain ⟨history, report, transcript⟩ :=
    Batch.exists_transcript_run services.answer configuration.concurrency
      (session.schedule number) (files.map task) before (by rwa [names])
  rw [jobs] at transcript
  rcases Services.plays_answer transcript.plays with ⟨sameTree, sameRecords, hears, grounded⟩
  have yields (path : Path) (member : path ∈ files) :
      (FileJob.process configuration progress.ledger root path).Yields (spokenBy path history)
        (report path) :=
    transcript.yields (task path) (List.mem_map_of_mem member)
  have rooted (path : Path) : ∀ reply ∈ spokenBy path history,
      reply.Grounded services before.tree := fun reply member =>
    grounded reply (List.mem_map_of_mem (mem_spokenBy_iff.mp member))
  have named (path : Path) (member : path ∈ files) : (report path).path = path :=
    (FileJob.course_of_yields (yields path member) (rooted path)).path_eq
  generalize finished : Batch.run services.answer configuration.concurrency
    (session.schedule number) (files.map (FileJob.process configuration progress.ledger root))
    before = ran at transcript sameTree sameRecords hears
  have results : ran.1.Perm (files.map report) := by
    simpa [task, Function.comp_def] using transcript.results
  obtain ⟨order, reported⟩ := order_of_reports results named
  refine ⟨⟨ran.1.map (·.path), report, history, fun _ => before.tree⟩, ?_, ?_⟩
  · exact
      { order := order
        marked := fun spoken member => names ▸ transcript.marked spoken member
        hears := by
          simpa only [runBatch, finished, Action.foldl_keepRecord] using hears
        yields := yields
        grounded := fun path _ => rooted path
        seen := fun _ _ => ⟨0, by simp⟩
        records := by
          simp only [runBatch, finished, Action.foldl_keepRecord, sameRecords,
            Proceedings.records, Proceedings.reports, reported]
        tree := by
          simp only [runBatch, finished, Action.foldl_keepRecord, sameTree,
            Proceedings.records, Proceedings.reports, reported] }
  · simp only [runBatch, finished, foldl_absorb, Progress.after, Ledger.absorbAll,
      Proceedings.reports, reported]

/-- Work on batches has proceedings, as if there were no batches. -/
theorem exists_describe_runBatches {batches : List (List Path × Nat)}
    (distinct : (batches.map (·.1)).flatten.Nodup) (progress : Progress) (before : World σ)
    (same : ∀ path ∈ (batches.map (·.1)).flatten,
      progress.ledger.get? path = ledger.get? path) :
    ∃ proceedings : Proceedings,
      proceedings.Describe services session configuration ledger root
        (batches.map (·.1)).flatten before
        (runBatches services session configuration root batches progress before).2 ∧
      (runBatches services session configuration root batches progress before).1 =
        progress.after proceedings := by
  induction batches generalizing progress before with
  | nil =>
      exact ⟨.none before.tree fun path => ⟨path, .skipped, none, 0⟩,
        Proceedings.describe_none _ before, rfl⟩
  | cons batch rest inductionHypothesis =>
      rcases batch with ⟨files, number⟩
      simp only [List.map_cons, List.flatten_cons] at distinct same ⊢
      rcases List.nodup_append'.mp distinct with ⟨here, further, apart⟩
      obtain ⟨first, described, sums⟩ := exists_describe_runBatch services session configuration
        root here number progress before
      have untouched (path : Path) (member : path ∈ (rest.map (·.1)).flatten) :
          (progress.after first).ledger.get? path = ledger.get? path := by
        rw [Progress.after, described.get?_absorbAll here, if_neg fun inside => apart inside member]
        exact same path (List.mem_append_right _ member)
      obtain ⟨second, describedRest, sumsRest⟩ := inductionHypothesis further
        (progress.after first)
        (runBatch services session configuration root (files, number) progress before).2 untouched
      have begun := described.of_ledger fun path member =>
        same path (List.mem_append_left _ member)
      have step : runBatches services session configuration root ((files, number) :: rest) progress
          before = runBatches services session configuration root rest (progress.after first)
            (runBatch services session configuration root (files, number) progress before).2 := by
        rw [← sums]
        rfl
      rw [step, sumsRest]
      refine ⟨first.andThen second files, begun.andThen describedRest apart, ?_⟩
      simp only [Progress.after, Proceedings.reports_andThen begun describedRest apart,
        Ledger.absorbAll, List.foldl_append]

/-- Work on files in batches has proceedings. -/
theorem exists_describe_files {files : List Path} (distinct : files.Nodup) (progress : Progress)
    (before : World σ) :
    ∃ proceedings : Proceedings,
      proceedings.Describe services session configuration progress.ledger root files before
        (runBatches services session configuration root
          (blocksOf (configuration.batchSize - 1) files).zipIdx progress before).2 ∧
      (runBatches services session configuration root
        (blocksOf (configuration.batchSize - 1) files).zipIdx progress before).1 =
          progress.after proceedings := by
  have cut : ((blocksOf (configuration.batchSize - 1) files).zipIdx.map (·.1)).flatten = files := by
    rw [List.zipIdx_map_fst, flatten_blocksOf]
  have once := distinct
  rw [← cut] at once
  have described := exists_describe_runBatches services session configuration progress.ledger root
    once progress before fun _ _ => rfl
  rwa [cut] at described

end Batches

/-! ## Whole runs -/

/-- The account of a run that succeeds. -/
structure Account (services : Services σ) (session : Session) (configuration : Configuration)
    (before after : World σ) where
  summary : RunSummary
  ledger : Ledger
  root : Path
  files : List Path
  proceedings : Proceedings
  ran : (run services session configuration).run before = (.ok summary, after)
  valid : configuration.validate = .ok ()
  loaded : Ledger.load before.tree configuration.cachePath = .ok ledger
  resolved : resolveRoot configuration before.tree = .ok root
  discovered : (discovery services configuration).run before.tree root = .ok files
  distinct : files.Nodup
  describe : proceedings.Describe services session configuration ledger root files
    { before with remote := (services.connect before.remote).2 }
    { after with tree := session.logged (proceedings.records session) before.tree }
  summed : summary = proceedings.reports.foldl RunSummary.absorb (RunSummary.start files.length)
  saved : (ledger.absorbAll proceedings.reports).save configuration.cachePath
    (session.logged (proceedings.records session) before.tree) = (.ok (), after.tree)

theorem run_bind {α β : Type} (work : Action σ α) (next : α → Action σ β) (world : World σ) :
    (work >>= next).run world =
      ExceptT.bindCont next (work.run world).1 (work.run world).2 :=
  rfl

/-- Work goes on with what its first part gave. -/
theorem bind_of_ok {α β : Type} {work : Action σ α} {next : α → Action σ β}
    {world : World σ} (value : α) (gave : (work.run world).1 = .ok value) :
    (work >>= next).run world = (next value).run (work.run world).2 := by
  rw [run_bind, gave]
  rfl

/-- Work that succeeds in two parts succeeds in each. -/
theorem bind_eq_ok {α β : Type} {work : Action σ α} {next : α → Action σ β}
    {before after : World σ} {result : β} (ran : (work >>= next).run before = (.ok result, after)) :
    ∃ value middle, work.run before = (.ok value, middle) ∧
      (next value).run middle = (.ok result, after) := by
  rw [run_bind] at ran
  cases first : work.run before with
  | mk found middle =>
      rw [first] at ran
      cases found with
      | ok value => exact ⟨value, middle, rfl, ran⟩
      | error failure => cases ran

theorem lookingAtFiles_eq_ok {α : Type} {look : FileTree → Except Failure α}
    {before after : World σ} {result : α}
    (ran : (Action.lookingAtFiles look).run before = (.ok result, after)) :
    look before.tree = .ok result ∧ after = before := by
  rcases Prod.mk.inj ran with ⟨found, rfl⟩
  exact ⟨found, rfl⟩

theorem changingFiles_eq_ok {α : Type} {change : FileTree → Except Failure α × FileTree}
    {before after : World σ} {result : α}
    (ran : (Action.changingFiles change).run before = (.ok result, after)) :
    ∃ tree, change before.tree = (.ok result, tree) ∧ after = { before with tree } := by
  rcases Prod.mk.inj ran with ⟨found, rfl⟩
  exact ⟨_, Prod.ext found rfl, rfl⟩

theorem remotely_eq_ok {α : Type} {use : σ → Except Failure α × σ} {before after : World σ}
    {result : α} (ran : (Action.remotely use).run before = (.ok result, after)) :
    ∃ remote, use before.remote = (.ok result, remote) ∧ after = { before with remote } := by
  rcases Prod.mk.inj ran with ⟨found, rfl⟩
  exact ⟨_, Prod.ext found rfl, rfl⟩

theorem lift_eq_ok {α : Type} {step : World σ → α × World σ} {before after : World σ} {result : α}
    (ran : (ExceptT.lift (StateT.mk step) : Action σ α).run before = (.ok result, after)) :
    step before = (result, after) := by
  rcases Prod.mk.inj ran with ⟨found, rfl⟩
  exact Prod.ext (Except.ok.inj found) rfl

/-- A run that gets as far as to its files works on all of them, whatever becomes of each, and
then saves the fingerprints. -/
theorem run_of_discovered {services : Services σ} {session : Session}
    {configuration : Configuration} {before middle : World σ} {ledger : Ledger} {root : Path}
    {files : List Path} {progress : Progress} (valid : configuration.validate = .ok ())
    (connected : (services.connect before.remote).1 = .ok ())
    (loaded : Ledger.load before.tree configuration.cachePath = .ok ledger)
    (resolved : resolveRoot configuration before.tree = .ok root)
    (discovered : (discovery services configuration).run before.tree root = .ok files)
    (worked : runBatches services session configuration root
      (blocksOf (configuration.batchSize - 1) files).zipIdx ⟨RunSummary.start files.length, ledger⟩
      { before with remote := (services.connect before.remote).2 } = (progress, middle)) :
    (run services session configuration).run before =
      ((progress.ledger.save configuration.cachePath middle.tree).1.map fun _ => progress.summary,
        { middle with tree := (progress.ledger.save configuration.cachePath middle.tree).2 }) := by
  have finish (world : World σ) :
      (Action.changingFiles (progress.ledger.save configuration.cachePath) >>= fun _ =>
        pure progress.summary).run world =
      ((progress.ledger.save configuration.cachePath world.tree).1.map fun _ => progress.summary,
        { world with tree := (progress.ledger.save configuration.cachePath world.tree).2 }) := by
    rw [run_bind, Action.changingFiles, ExceptT.run_mk]
    cases progress.ledger.save configuration.cachePath world.tree with
    | mk result tree => cases result <;> rfl
  rw [run, bind_of_ok (), bind_of_ok (), bind_of_ok ledger, bind_of_ok root, bind_of_ok files,
    bind_of_ok progress, finish]
  · rcases Prod.mk.inj worked with ⟨-, rfl⟩
    rfl
  · exact congrArg (fun worked => Except.ok worked.1) worked
  · exact discovered
  · exact resolved
  · exact loaded
  · exact congrArg (Except.mapError _) connected
  · exact valid

theorem during_eq_ok {α : Type} {purpose : String} {result : Except Failure α} {value : α}
    (done : Failure.during purpose result = .ok value) : result = .ok value := by
  cases result with
  | error failure => cases done
  | ok found => exact done

/-- The root of a run is where the configuration leads. -/
theorem canonicalize_of_resolveRoot {configuration : Configuration} {tree : FileTree} {root : Path}
    (resolved : resolveRoot configuration tree = .ok root) :
    tree.canonicalize configuration.root = .ok root := by
  have found := during_eq_ok resolved
  cases canonical : tree.canonicalize configuration.root with
  | error failure =>
      rw [canonical] at found
      cases found
  | ok path =>
      rw [canonical] at found
      cases found
      rfl

/-- Every run that succeeds has an account. -/
theorem exists_account {services : Services σ} {session : Session} {configuration : Configuration}
    {before after : World σ} {summary : RunSummary}
    (ran : (run services session configuration).run before = (.ok summary, after))
    (distinct : ∀ root files, resolveRoot configuration before.tree = .ok root →
      (discovery services configuration).run before.tree root = .ok files → files.Nodup) :
    ∃ account : Account services session configuration before after, account.summary = summary := by
  have whole := ran
  rcases bind_eq_ok ran with ⟨⟨⟩, _, checked, ran⟩
  rcases Prod.mk.inj checked with ⟨valid, rfl⟩
  rcases bind_eq_ok ran with ⟨⟨⟩, _, connected, ran⟩
  rcases remotely_eq_ok connected with ⟨remote, reached, rfl⟩
  rcases Prod.mk.inj reached with ⟨_, rfl⟩
  rcases bind_eq_ok ran with ⟨ledger, _, looked, ran⟩
  rcases lookingAtFiles_eq_ok looked with ⟨loaded, rfl⟩
  rcases bind_eq_ok ran with ⟨root, _, looked, ran⟩
  rcases lookingAtFiles_eq_ok looked with ⟨resolved, rfl⟩
  rcases bind_eq_ok ran with ⟨files, _, looked, ran⟩
  rcases lookingAtFiles_eq_ok looked with ⟨discovered, rfl⟩
  rcases bind_eq_ok ran with ⟨progress, worked, batched, ran⟩
  rcases bind_eq_ok ran with ⟨⟨⟩, _, changed, ran⟩
  rcases changingFiles_eq_ok changed with ⟨tree, saved, rfl⟩
  rcases Prod.mk.inj ran with ⟨summed, rfl⟩
  cases summed
  have once := distinct root files resolved discovered
  obtain ⟨proceedings, describe, progressed⟩ := exists_describe_files services session configuration
    root once ⟨RunSummary.start files.length, ledger⟩
    { before with remote := (services.connect before.remote).2 }
  rw [lift_eq_ok batched] at describe progressed
  simp only at progressed
  subst progressed
  have logged := describe.tree
  simp only at logged
  rw [logged] at saved
  refine ⟨⟨_, ledger, root, files, proceedings, whole, valid, loaded, resolved,
    discovered, once, ?_, rfl, saved⟩, rfl⟩
  exact { describe with tree := rfl }

end Ingestion

end SourceHarvest
