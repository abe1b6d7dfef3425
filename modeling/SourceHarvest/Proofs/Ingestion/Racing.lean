import SourceHarvest.Proofs.Ingestion.Questions
import SourceHarvest.Proofs.Ingestion.TableServices
import SourceHarvest.Proofs.Text.Bytes
import Mathlib.Order.Fin.Basic

/-!
# Writes beside the work on a file

A file can be written at any moment, also between the questions by which its fingerprint is taken.
Its time is asked for before its bytes, so however writes and questions fall, a fingerprint is never
dated later than the version whose bytes it was made of.  Every later version is then told from that
one when the file is checked for changes.
-/

namespace SourceHarvest

/-- What a file holds from one write to the next.  Its time is in milliseconds since 1970, in 64 bits
unless it lies before. -/
structure Version where
  content : ByteArray
  modified : Int
  fits : modified < 0x10000000000000000

/-- What is said of a file is true of a version of it. -/
def Version.Confirms (version : Version) (path : Path) : Reply → Prop
  | ⟨.modified asked, answer⟩ =>
      asked = path → (answer : Except FileError Int) = .ok version.modified
  | ⟨.read asked, answer⟩ =>
      asked = path → (answer : Except FileError ByteArray) = .ok version.content
  | _ => True

/-- The question is for the bytes of a file. -/
def Request.reads (path : Path) : Request → Bool
  | .read asked => asked = path
  | _ => false

/-- A file goes from one version to another while a dialogue is held: any number of writes fall before,
between and after the questions, and what is asked about the file is answered out of the version that
it has at that moment.  The moments of the questions are listed in their order. -/
inductive Meanwhile {count : Nat} (versions : Fin count → Version) (path : Path) :
    Fin count → List Reply → List (Fin count) → Fin count → Prop where
  | ended (now : Fin count) : Meanwhile versions path now [] [] now
  | written {now later last : Fin count} {dialogue : List Reply} {moments : List (Fin count)}
      (writes : now ≤ later)
      (rest : Meanwhile versions path later dialogue moments last) :
      Meanwhile versions path now dialogue moments last
  | answered {now last : Fin count} {reply : Reply} {dialogue : List Reply}
      {moments : List (Fin count)} (confirmed : (versions now).Confirms path reply)
      (rest : Meanwhile versions path now dialogue moments last) :
      Meanwhile versions path now (reply :: dialogue) (now :: moments) last

/-- The versions of a file whose bytes were given in a dialogue. -/
def versionsRead {count : Nat} (path : Path) (dialogue : List Reply) (moments : List (Fin count)) :
    List (Fin count) :=
  ((dialogue.zip moments).filter fun said => said.1.request.reads path).map (·.2)

variable {count : Nat} {versions : Fin count → Version} {path : Path}

theorem versionsRead_append {first second : List Reply} {earlier later : List (Fin count)}
    (length : earlier.length = first.length) :
    versionsRead path (first ++ second) (earlier ++ later) =
      versionsRead path first earlier ++ versionsRead path second later := by
  rw [versionsRead, List.zip_append length.symm, List.filter_append, List.map_append]
  rfl

/-- Nothing is read where nothing is asked for. -/
theorem versionsRead_eq_nil {dialogue : List Reply} {moments : List (Fin count)}
    (silent : ∀ reply ∈ dialogue, reply.request.reads path = false) :
    versionsRead path dialogue moments = [] := by
  rw [versionsRead, List.map_eq_nil_iff, List.filter_eq_nil_iff]
  intro said member
  rw [silent said.1 (List.of_mem_zip member).1]
  exact Bool.false_ne_true

namespace Meanwhile

variable {start last : Fin count} {dialogue first second : List Reply} {reply : Reply}
  {moments : List (Fin count)}

/-- A file never comes back to an earlier version. -/
theorem le (meanwhile : Meanwhile versions path start dialogue moments last) : start ≤ last := by
  induction meanwhile with
  | ended => exact le_rfl
  | written writes _ inductionHypothesis => exact le_trans writes inductionHypothesis
  | answered _ _ inductionHypothesis => exact inductionHypothesis

/-- Every question has its moment. -/
theorem length_eq (meanwhile : Meanwhile versions path start dialogue moments last) :
    moments.length = dialogue.length := by
  induction meanwhile with
  | ended => rfl
  | written _ _ inductionHypothesis => exact inductionHypothesis
  | answered _ _ inductionHypothesis => exact congrArg (· + 1) inductionHypothesis

/-- The first question is asked at some version, and the rest goes on from there. -/
theorem exists_moment
    (meanwhile : Meanwhile versions path start (reply :: dialogue) moments last) :
    ∃ now later, moments = now :: later ∧ start ≤ now ∧ (versions now).Confirms path reply ∧
      Meanwhile versions path now dialogue later last := by
  generalize whole : reply :: dialogue = all at meanwhile
  induction meanwhile with
  | ended => cases whole
  | written writes _ inductionHypothesis =>
      obtain ⟨now, later, rfl, reached, confirmed, rest⟩ := inductionHypothesis whole
      exact ⟨now, later, rfl, le_trans writes reached, confirmed, rest⟩
  | answered confirmed rest =>
      cases whole
      exact ⟨_, _, rfl, le_rfl, confirmed, rest⟩

/-- A dialogue in two parts goes on in the second where it came to in the first. -/
theorem exists_middle
    (meanwhile : Meanwhile versions path start (first ++ second) moments last) :
    ∃ middle earlier later, moments = earlier ++ later ∧
      Meanwhile versions path start first earlier middle ∧
      Meanwhile versions path middle second later last := by
  induction first generalizing start moments with
  | nil => exact ⟨start, [], moments, rfl, .ended start, meanwhile⟩
  | cons reply rest inductionHypothesis =>
      obtain ⟨now, _, rfl, reached, confirmed, further⟩ := meanwhile.exists_moment
      obtain ⟨middle, earlier, later, rfl, before, after⟩ := inductionHypothesis further
      exact ⟨middle, now :: earlier, later, rfl, .written reached (.answered confirmed before), after⟩

end Meanwhile

namespace FileJob

open Job

/-! ## Taking a fingerprint -/

/-- Work that can end in a fingerprint of a file: to work on the file in a run, to index it, or to
take its fingerprint alone. -/
inductive Takes (path : Path) : Job (Option Fingerprint) → Prop where
  | processed (configuration : Configuration) (ledger : Ledger) (root : Path) :
      Takes path (FileReport.fingerprint <$> process configuration ledger root path)
  | ingested (configuration : Configuration) (root : Path) (indexedBefore : Bool) :
      Takes path ((fun result => result.toOption.map Prod.fst) <$>
        (ingest configuration root path indexedBefore).run)
  | updated (chunkCount : Nat) :
      Takes path (Except.toOption <$> (Tracking.fingerprint path chunkCount).run)

/-- The milliseconds that a time of a file stands for, if it does not lie before 1970. -/
def millisOf? (time : Int) : Option Nat :=
  if time < 0 then none else some (time.toNat % 0x10000000000000000)

/-- The fingerprint was taken in a dialogue: first the time of the file was given and right after it
the bytes, and nowhere else was it read. -/
def TakenIn (path : Path) (fingerprint : Fingerprint) (dialogue : List Reply) : Prop :=
  ∃ earlier time content later,
    dialogue = earlier ++ ⟨.modified path, .ok time⟩ :: ⟨.read path, .ok content⟩ :: later ∧
    (∀ reply ∈ earlier, reply.request.reads path = false) ∧
    (∀ reply ∈ later, reply.request.reads path = false) ∧
    millisOf? time = some fingerprint.lastModified ∧ fingerprint.hash = contentHash content.toList

variable {dialogue : List Reply} {fingerprint : Fingerprint}

/-- One question is asked for the time of a file. -/
theorem exists_time_of_modifiedMillis {result : Except Failure Nat}
    (yields : Yields (Tracking.modifiedMillis path).run dialogue result) :
    ∃ answer : Except FileError Int, dialogue = [⟨.modified path, answer⟩] ∧
      result.toOption = answer.toOption.bind millisOf? := by
  rw [Tracking.modifiedMillis, yields_questionBind_iff] at yields
  obtain ⟨answer, rest, rfl, stamped⟩ := yields
  cases (answer : Except FileError Int) with
  | error =>
      obtain ⟨rfl, rfl⟩ := yields_pure_iff.mp stamped
      exact ⟨_, rfl, rfl⟩
  | ok time =>
      refine ⟨.ok time, ?_⟩
      simp only [Except.toOption, Option.bind_some, millisOf?] at stamped ⊢
      split at stamped
      · rename_i early
        obtain ⟨rfl, rfl⟩ := yields_pure_iff.mp stamped
        rw [if_pos early]
        exact ⟨rfl, rfl⟩
      · rename_i late
        obtain ⟨rfl, rfl⟩ := yields_pure_iff.mp stamped
        rw [if_neg late]
        exact ⟨rfl, rfl⟩

theorem exists_time_of_dated {lastModified : Nat}
    (yields : Yields (Tracking.modifiedMillis path).run dialogue (.ok lastModified)) :
    ∃ time : Int, dialogue = [⟨.modified path, .ok time⟩] ∧ millisOf? time = some lastModified := by
  obtain ⟨answer, rfl, given⟩ := exists_time_of_modifiedMillis yields
  cases answer with
  | error => cases given
  | ok time => exact ⟨time, rfl, given.symm⟩

/-- Work succeeds where its first part does and then its second. -/
theorem yields_bind_ok_iff {α β : Type} {work : ExceptT Failure Job α}
    {next : α → ExceptT Failure Job β} {result : β} :
    Yields (work >>= next).run dialogue (.ok result) ↔
      ∃ first value second, dialogue = first ++ second ∧ Yields work.run first (.ok value) ∧
        Yields (next value).run second (.ok result) := by
  rw [yields_exceptBind_iff, or_iff_right]
  rintro ⟨_, _, impossible⟩
  cases impossible

theorem yields_readBytes_ok_iff {purpose : String} {content : ByteArray} :
    Yields (Tracking.readBytes path purpose).run dialogue (.ok content) ↔
      dialogue = [⟨.read path, .ok content⟩] := by
  rw [Tracking.readBytes, yields_questionBind_iff]
  constructor
  · rintro ⟨answer, rest, rfl, finished⟩
    cases (answer : Except FileError ByteArray) with
    | error => cases (yields_pure_iff.mp finished).2
    | ok found =>
        obtain ⟨rfl, same⟩ := yields_pure_iff.mp finished
        rw [Except.ok.inj same]
  · rintro rfl
    exact ⟨.ok content, [], rfl, .done _⟩

/-- A source is read by one question, which is answered with its bytes. -/
theorem yields_readSource_ok_iff {source : String} :
    Yields (readSource path).run dialogue (.ok source) ↔
      dialogue = [⟨.read path, .ok source.toUTF8⟩] := by
  rw [readSource, yields_bind_ok_iff]
  constructor
  · rintro ⟨reading, content, rest, rfl, opened, decodes⟩
    obtain rfl := yields_readBytes_ok_iff.mp opened
    cases decoded : String.fromUTF8? content with
    | none =>
        rw [decoded] at decodes
        cases (yields_pure_iff.mp decodes).2
    | some text =>
        rw [decoded] at decodes
        obtain ⟨rfl, same⟩ := yields_pure_iff.mp decodes
        rw [Except.ok.inj same, ← fromUTF8?_eq_some_iff.mp decoded]
        rfl
  · rintro rfl
    refine ⟨_, source.toUTF8, [], rfl, yields_readBytes_ok_iff.mpr rfl, ?_⟩
    rw [fromUTF8?_toUTF8]
    exact .done _

theorem takenIn_of_fingerprint {chunkCount : Nat}
    (yields : Yields (Tracking.fingerprint path chunkCount).run dialogue (.ok fingerprint)) :
    TakenIn path fingerprint dialogue := by
  rw [Tracking.fingerprint] at yields
  obtain ⟨dating, lastModified, _, rfl, dated, yields⟩ := yields_bind_ok_iff.mp yields
  obtain ⟨reading, content, _, rfl, opened, finished⟩ := yields_bind_ok_iff.mp yields
  obtain ⟨time, rfl, stamp⟩ := exists_time_of_dated dated
  obtain rfl := yields_readBytes_ok_iff.mp opened
  obtain ⟨rfl, same⟩ := yields_pure_iff.mp finished
  cases same
  exact ⟨[], time, content, [], rfl, by simp, by simp, stamp, rfl⟩

theorem takenIn_of_ingest {configuration : Configuration} {root : Path} {indexedBefore : Bool}
    {dropped : Nat} (yields : Yields (ingest configuration root path indexedBefore).run dialogue
      (.ok (fingerprint, dropped))) : TakenIn path fingerprint dialogue := by
  rw [ingest] at yields
  obtain ⟨dating, lastModified, _, rfl, dated, yields⟩ := yields_bind_ok_iff.mp yields
  obtain ⟨reading, source, _, rfl, opened, yields⟩ := yields_bind_ok_iff.mp yields
  obtain ⟨parsing, parsed, _, rfl, asked, yields⟩ := yields_bind_ok_iff.mp yields
  obtain ⟨cutting, bounded, _, rfl, cut, yields⟩ := yields_bind_ok_iff.mp yields
  obtain ⟨measuring, embeddings, _, rfl, embedded, yields⟩ := yields_bind_ok_iff.mp yields
  obtain ⟨dropping, _, _, rfl, evicted, yields⟩ := yields_bind_ok_iff.mp yields
  obtain ⟨storing, _, _, rfl, stored, finished⟩ := yields_bind_ok_iff.mp yields
  obtain ⟨time, rfl, stamp⟩ := exists_time_of_dated dated
  obtain rfl := yields_readSource_ok_iff.mp opened
  obtain rfl := yields_question_iff.mp asked
  obtain ⟨rfl, _⟩ := yields_exceptPure_iff.mp cut
  obtain ⟨rfl, same⟩ := yields_pure_iff.mp finished
  cases same
  have silent {α : Type} {work : ExceptT Failure Job α} {part : List Reply} {result : Except Failure α}
      (asks : work.run.Asks fun request => request.reads path = false)
      (said : Yields work.run part result) : ∀ reply ∈ part, reply.request.reads path = false :=
    asks.of_yields said
  have behind : ∀ reply ∈ measuring ++ (dropping ++ (storing ++ [])),
      reply.request.reads path = false := by
    simp only [List.append_nil, List.forall_mem_append]
    exact ⟨silent (asks_embed _ fun _ => rfl) embedded, silent (asks_evict _ rfl) evicted,
      silent (asks_upsert _ _ rfl) stored⟩
  exact ⟨[], time, source.toUTF8, _, rfl, by simp, List.forall_mem_cons.mpr ⟨rfl, behind⟩, stamp,
    rfl⟩

/-- A fingerprint that a run reports was taken while the file was worked on. -/
theorem takenIn_of_process {configuration : Configuration} {ledger : Ledger} {root : Path}
    {report : FileReport} (yields : Yields (process configuration ledger root path) dialogue report)
    (reported : report.fingerprint = some fingerprint) : TakenIn path fingerprint dialogue := by
  obtain ⟨asking, work, rfl, dated, ⟨rfl, rfl⟩ | ⟨attempt, attempted, rfl⟩⟩ :=
    cases_of_yields_process yields
  · cases reported
  have unread : ∀ reply ∈ asking, reply.request.reads path = false := fun reply member => by
    rw [dated reply member]
    rfl
  cases attempt with
  | error => cases reported
  | ok result =>
      cases Option.some.inj reported
      obtain ⟨earlier, time, content, later, rfl, before, behind, found⟩ :=
        takenIn_of_ingest attempted
      exact ⟨asking ++ earlier, time, content, later, (List.append_assoc ..).symm,
        List.forall_mem_append.mpr ⟨unread, before⟩, behind, found⟩

theorem Takes.takenIn {work : Job (Option Fingerprint)} (takes : Takes path work)
    (yields : Yields work dialogue (some fingerprint)) : TakenIn path fingerprint dialogue := by
  cases takes with
  | processed configuration ledger root =>
      obtain ⟨report, worked, reported⟩ := yields_map_iff.mp yields
      exact takenIn_of_process worked reported.symm
  | ingested configuration root indexedBefore =>
      obtain ⟨result, worked, reported⟩ := yields_map_iff.mp yields
      cases result with
      | error => cases reported
      | ok found =>
          cases Option.some.inj reported
          exact takenIn_of_ingest worked
  | updated chunkCount =>
      obtain ⟨result, worked, reported⟩ := yields_map_iff.mp yields
      cases result with
      | error => cases reported
      | ok found =>
          cases Option.some.inj reported
          exact takenIn_of_fingerprint worked

/-! ## Versions and fingerprints -/

section Versions

variable {start last : Fin count} {moments : List (Fin count)}

/-- A time of 64 bits stands for itself. -/
theorem millisOf?_modified (version : Version) {lastModified : Nat} :
    millisOf? version.modified = some lastModified ↔ version.modified = lastModified := by
  have fits := version.fits
  rw [millisOf?]
  split
  · simp only [reduceCtorEq, false_iff]
    omega
  · rw [Option.some.injEq]
    omega

/-- A fingerprint is dated by a version that is not later than the only one that was read. -/
theorem TakenIn.exists_versions (taken : TakenIn path fingerprint dialogue)
    (meanwhile : Meanwhile versions path start dialogue moments last) :
    ∃ dated hashed, dated ≤ hashed ∧ hashed ≤ last ∧ versionsRead path dialogue moments = [hashed] ∧
      (versions dated).modified = fingerprint.lastModified ∧
      fingerprint.hash = contentHash (versions hashed).content.toList := by
  obtain ⟨earlier, time, content, later, rfl, before, behind, stamp, hash⟩ := taken
  obtain ⟨middle, first, rest, rfl, begins, goesOn⟩ := meanwhile.exists_middle
  obtain ⟨dated, _, rfl, -, stated, opens⟩ := goesOn.exists_moment
  obtain ⟨hashed, final, rfl, ordered, given, ends⟩ := opens.exists_moment
  obtain rfl := Except.ok.inj (stated rfl)
  obtain rfl := Except.ok.inj (given rfl)
  refine ⟨dated, hashed, ordered, ends.le, ?_, (millisOf?_modified _).mp stamp, hash⟩
  have asked : (Request.read path).reads path = true := decide_eq_true rfl
  rw [versionsRead_append begins.length_eq, versionsRead_eq_nil before]
  simp only [versionsRead, List.zip_cons_cons, List.filter_cons, Request.reads, List.nil_append,
    decide_true, if_true, Bool.false_eq_true, if_false, List.map_cons]
  exact congrArg (hashed :: ·) (versionsRead_eq_nil behind)

/-- A file with a fingerprint is checked by one question, and counts as changed exactly where its
version then is dated later than the fingerprint, or before 1970. -/
theorem exists_version_of_hasChanged {recorded : Ledger} {changed : Bool}
    (known : recorded.get? path = some fingerprint)
    (yields : Yields (Tracking.hasChanged recorded path) dialogue changed)
    (meanwhile : Meanwhile versions path start dialogue moments last) :
    ∃ now, moments = [now] ∧ start ≤ now ∧
      (changed = true ↔ (versions now).modified < 0 ∨
        fingerprint.lastModified < (versions now).modified) := by
  rw [Tracking.hasChanged, known] at yields
  obtain ⟨asking, found, rest, rfl, stamped, decided⟩ := yields_bind_iff.mp yields
  obtain ⟨answer, rfl, given⟩ := exists_time_of_modifiedMillis stamped
  obtain ⟨now, later, rfl, reached, stated, ended⟩ := meanwhile.exists_moment
  obtain rfl : answer = .ok (versions now).modified := stated rfl
  cases found with
  | error =>
      obtain ⟨rfl, rfl⟩ := yields_pure_iff.mp decided
      obtain rfl := List.eq_nil_of_length_eq_zero ended.length_eq
      refine ⟨now, rfl, reached, iff_of_true rfl (.inl ?_)⟩
      by_contra late
      rw [Except.toOption, Except.toOption, Option.bind_some, millisOf?, if_neg late] at given
      cases given
  | ok current =>
      obtain ⟨rfl, rfl⟩ := yields_pure_iff.mp decided
      obtain rfl := List.eq_nil_of_length_eq_zero ended.length_eq
      have time := (millisOf?_modified (versions now)).mp given.symm
      refine ⟨now, rfl, reached, ?_⟩
      rw [decide_eq_true_iff, time]
      omega

/-- However a file is written while its fingerprint is taken and until it is checked for changes: the
file counts as changed exactly if the version at the check is later than the one that dated the
fingerprint.  That is never later than the version that was hashed, so any other version than this one
counts as changed, and a file that does not still has the bytes that were hashed. -/
theorem overwriting_is_seen {work : Job (Option Fingerprint)} {checking : List Reply}
    {checks : List (Fin count)} {recorded : Ledger} {changed : Bool} {final : Fin count}
    (ascending : ∀ earlier later, earlier < later →
      (versions earlier).modified < (versions later).modified)
    (takes : Takes path work) (taken : Yields work dialogue (some fingerprint))
    (meanwhile : Meanwhile versions path start dialogue moments last)
    (known : recorded.get? path = some fingerprint)
    (checked : Yields (Tracking.hasChanged recorded path) checking changed)
    (afterwards : Meanwhile versions path last checking checks final) :
    ∃ dated hashed now, dated ≤ hashed ∧ hashed ≤ now ∧
      versionsRead path dialogue moments = [hashed] ∧ checks = [now] ∧
      fingerprint.hash = contentHash (versions hashed).content.toList ∧
      (changed = true ↔ dated < now) ∧ (now ≠ hashed → changed = true) ∧
      (changed = false → fingerprint.hash = contentHash (versions now).content.toList) := by
  obtain ⟨dated, hashed, ordered, settled, read, date, hash⟩ :=
    (takes.takenIn taken).exists_versions meanwhile
  obtain ⟨now, rfl, reached, change⟩ := exists_version_of_hasChanged known checked afterwards
  have strict : StrictMono fun version => (versions version).modified := fun _ _ => ascending _ _
  have after : hashed ≤ now := le_trans settled reached
  have later : changed = true ↔ dated < now := by
    rw [change, ← date, strict.lt_iff_lt, or_iff_right_iff_imp]
    intro early
    have notEarlier := strict.monotone (le_trans ordered after)
    omega
  have seen : now ≠ hashed → changed = true := fun other =>
    later.mpr (lt_of_le_of_lt ordered (lt_of_le_of_ne after other.symm))
  refine ⟨dated, hashed, now, ordered, after, read, rfl, hash, later, seen, fun same => ?_⟩
  obtain rfl : now = hashed := by
    by_contra other
    rw [seen other] at same
    cases same
  exact hash

end Versions

end FileJob

namespace Small

open FileJob Job

/-- A file that gets longer and longer. -/
def growing (version : Fin 3) : Version where
  content := (String.ofList (List.replicate version 'A')).toUTF8
  modified := 1000 + version.val
  fits := by omega

theorem modified_growing_lt (earlier later : Fin 3) (before : earlier < later) :
    (growing earlier).modified < (growing later).modified := by
  simp only [growing]
  omega

/-- Files without units are not indexed. -/
def unitsAlone : Configuration :=
  { configuration with wholeFileFallback := false, force := true }

/-- The file is written between the question for its time and that for its bytes. -/
def overtaken : List Reply :=
  [ ⟨.modified file, .ok (growing 0).modified⟩,
    ⟨.read file, .ok (growing 1).content⟩,
    ⟨.parse file "A", .ok (parsed "A")⟩ ]

/-- The fingerprint has the time of one version and the hash of the next. -/
def mixed : Fingerprint :=
  ⟨contentHash (utf8Bytes "A"), 1000, 0⟩

theorem yields_overtaken :
    Yields (FileReport.fingerprint <$> process unitsAlone .empty ⟨"/r"⟩ file) overtaken
      (some mixed) := by
  have worked : Yields (ingest unitsAlone ⟨"/r"⟩ file false).run overtaken (.ok (mixed, 0)) := by
    rw [ingest]
    refine yields_bind_ok_iff.mpr ⟨[_], _, _, rfl, .ask _ (.done _), ?_⟩
    refine yields_bind_ok_iff.mpr ⟨[_], _, _, rfl, yields_readSource_ok_iff.mpr rfl, ?_⟩
    exact .ask _ (.done _)
  exact yields_map_iff.mpr ⟨_, yields_map_iff.mpr ⟨_, worked, rfl⟩, rfl⟩

theorem meanwhile_overtaken : Meanwhile growing file 0 overtaken [0, 1, 1] 1 :=
  .answered (fun _ => rfl) <| .written (Fin.zero_le 1) <| .answered (fun _ => rfl) <|
    .answered trivial <| .ended 1

/-- The first version dates the file and the second is hashed.  At the third it counts as changed. -/
theorem overtaking_is_seen :
    Yields (Tracking.hasChanged (Ledger.empty.record file mixed) file)
        [⟨.modified file, .ok (growing 2).modified⟩] true ∧
      ∃ dated hashed now : Fin 3, dated ≤ hashed ∧ hashed ≤ now ∧
        versionsRead file overtaken [0, 1, 1] = [hashed] ∧ [2] = [now] ∧
        mixed.hash = contentHash (growing hashed).content.toList ∧
        (true = true ↔ dated < now) ∧ (now ≠ hashed → true = true) ∧
        (true = false → mixed.hash = contentHash (growing now).content.toList) := by
  have known := Ledger.get?_record_self Ledger.empty file mixed
  have checked : Yields (Tracking.hasChanged (Ledger.empty.record file mixed) file)
      [⟨.modified file, .ok (growing 2).modified⟩] true := by
    rw [Tracking.hasChanged, known]
    exact .ask _ (.done _)
  have afterwards : Meanwhile growing file 1 [⟨.modified file, .ok (growing 2).modified⟩] [2] 2 :=
    .written (by decide) (.answered (fun _ => rfl) (.ended 2))
  exact ⟨checked, overwriting_is_seen modified_growing_lt (.processed unitsAlone .empty ⟨"/r"⟩)
    yields_overtaken meanwhile_overtaken known checked afterwards⟩

end Small

end SourceHarvest
