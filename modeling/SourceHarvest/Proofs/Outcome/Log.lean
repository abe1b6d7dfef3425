import SourceHarvest.Outcome.Log
import SourceHarvest.Proofs.FileTree.Retaining
import SourceHarvest.Proofs.Ingestion.TableServices
import SourceHarvest.Proofs.Json.Printable
import SourceHarvest.Proofs.Text.Bytes
import Mathlib.Data.List.Nodup

/-!
# What a log holds

A log holds what it held before, and behind that one line for each record.  A line ends where the next
one begins, whatever texts are in a record, and is read as the record that it was written for.
-/

namespace SourceHarvest

open Json

/-! ## Records as lines -/

namespace OutcomeRecord

/-- The count and the times of the record have 64 bits. -/
structure Fits (record : OutcomeRecord) : Prop where
  timestamp : record.timestamp ≤ greatestWord
  chunkCount : ∀ count ∈ record.chunkCount, count ≤ greatestWord
  duration : record.duration ≤ greatestWord

/-- Read a record from the text of a line. -/
def decode? (text : String) : Option OutcomeRecord :=
  (Document.ofText? text).bind ofDocument?

/-- The members of the record as an object. -/
def members (record : OutcomeRecord) : List (String × Value) :=
  [ ("timestamp", .ofNat record.timestamp),
    ("session_id", .text record.sessionId),
    ("path", .text record.path),
    ("status", .text record.status.name) ] ++
  record.chunkCount.toList.map (fun count => ("chunk_count", Value.ofNat count)) ++
  record.error.toList.map (fun words => ("error", Value.text words)) ++
  [("duration_ms", .ofNat record.duration)]

theorem toJson_eq (record : OutcomeRecord) : record.toJson = .object record.members :=
  rfl

variable (record : OutcomeRecord)

theorem nodup_members : (record.members.map (·.1)).Nodup := by
  obtain ⟨_, _, _, _, chunkCount, error, _⟩ := record
  cases chunkCount <;> cases error <;> simp [members]

theorem integral_toJson : record.toJson.Integral := by
  obtain ⟨_, _, _, _, chunkCount, error, _⟩ := record
  cases chunkCount <;> cases error <;>
    simp [toJson, Value.Integral, Value.MembersIntegral, Value.ofNat, Number.Integral, Number.toInt?]

/-- A line has a count or an error exactly if the record has. -/
theorem mem_members_iff :
    ("chunk_count" ∈ record.members.map (·.1) ↔ record.chunkCount.isSome) ∧
      ("error" ∈ record.members.map (·.1) ↔ record.error.isSome) := by
  obtain ⟨_, _, _, _, chunkCount, error, _⟩ := record
  cases chunkCount <;> cases error <;> simp [members]

/-- The fields of a record that was written are its own. -/
theorem fields?_toJson :
    record.toJson.document.fields?
        ["timestamp", "session_id", "path", "status", "chunk_count", "error", "duration_ms"] =
      some
        [ some (Value.ofNat record.timestamp).document, some (Value.text record.sessionId).document,
          some (Value.text record.path).document, some (Value.text record.status.name).document,
          record.chunkCount.map fun count => (Value.ofNat count).document,
          record.error.map fun words => (Value.text words).document,
          some (Value.ofNat record.duration).document ] := by
  rw [toJson_eq, Document.fields?_object record.nodup_members]
  obtain ⟨_, _, _, _, chunkCount, error, _⟩ := record
  cases chunkCount <;> cases error <;> rfl

/-- A count that is left out is read as none. -/
theorem optional?_count (count : Option Nat) :
    Document.optional? (Document.natural? greatestWord)
        (count.map fun found => (Value.ofNat found).document) =
      if ∀ found ∈ count, found ≤ greatestWord then some count else none := by
  cases count with
  | none => rfl
  | some found =>
      have read := Document.natural?_document (Nat.le_refl greatestWord) found
      change (Document.natural? greatestWord (Value.ofNat found).document).map some = _
      rw [read]
      by_cases fits : found ≤ greatestWord <;> simp [fits]

theorem optional?_error (error : Option String) :
    Document.optional? Document.text? (error.map fun words => (Value.text words).document) =
      some error := by
  cases error <;> rfl

/-- A record that was written is read again if its numbers have 64 bits. -/
theorem ofDocument?_toJson (read : OutcomeRecord) :
    ofDocument? record.toJson.document = some read ↔ read = record ∧ record.Fits := by
  have timestamp := Document.natural?_document (Nat.le_refl _) record.timestamp
  have duration := Document.natural?_document (Nat.le_refl _) record.duration
  have chunkCount := optional?_count record.chunkCount
  have word (text : String) : (Value.text text).document.text? = some text := rfl
  rw [ofDocument?, fields?_toJson]
  simp only [Option.bind_eq_bind, Option.bind_some, Option.pure_def, word, timestamp, duration,
    chunkCount, optional?_error, Status.ofName?_name, Option.bind_eq_some_iff,
    Option.ite_none_right_eq_some, Option.some.injEq]
  constructor
  · rintro ⟨_, ⟨first, rfl⟩, _, ⟨counted, rfl⟩, _, ⟨last, rfl⟩, rfl⟩
    exact ⟨rfl, first, counted, last⟩
  · rintro ⟨rfl, first, counted, last⟩
    exact ⟨_, ⟨first, rfl⟩, _, ⟨counted, rfl⟩, _, ⟨last, rfl⟩, rfl⟩

/-- The bytes of a line that shows a record, without the newline that ends it: they have no newline, and
are the text of an object that has just the members of the record and is read as it. -/
structure ShownBy (record : OutcomeRecord) (line : List UInt8) : Prop where
  unbroken : (10 : UInt8) ∉ line
  shown : ∃ text members, line = utf8Bytes text ∧ Document.ofText? text = some (.object members) ∧
    (members.map (·.1)).Nodup ∧
    (some "chunk_count" ∈ members.map (·.1) ↔ record.chunkCount.isSome) ∧
    (some "error" ∈ members.map (·.1) ↔ record.error.isSome) ∧
    ∀ read, decode? text = some read ↔ read = record ∧ record.Fits

/-- The text of a record is a line that shows it. -/
theorem shownBy_compact : record.ShownBy (utf8Bytes record.toJson.compact) where
  unbroken := by
    intro member
    obtain ⟨c, inside, value⟩ := exists_char_of_mem_utf8Bytes member (by decide)
    obtain rfl : c = '\n' := Char.ext (UInt32.toNat_inj.mp value)
    exact record.toJson.newline_not_mem_compact inside
  shown := by
    have taken := Document.ofText?_compact record.integral_toJson
    have names : (Value.memberDocuments record.members).map (·.1) =
        (record.members.map (·.1)).map some := by
      rw [Document.memberDocuments_eq_map, List.map_map, List.map_map]
      rfl
    have read (name : String) : some name ∈ (record.members.map (·.1)).map some ↔
        name ∈ record.members.map (·.1) :=
      List.mem_map_of_injective (Option.some_injective _)
    refine ⟨_, Value.memberDocuments record.members, rfl, taken, ?_, ?_, ?_, ?_⟩
    · rw [names]
      exact List.Nodup.map (Option.some_injective _) record.nodup_members
    · rw [names, read]
      exact record.mem_members_iff.1
    · rw [names, read]
      exact record.mem_members_iff.2
    · intro found
      rw [decode?, taken, Option.bind_some, ofDocument?_toJson]

theorem utf8Bytes_line : utf8Bytes record.line = utf8Bytes record.toJson.compact ++ [10] := by
  rw [line, utf8Bytes_eq, String.toList_append, List.flatMap_append, ← utf8Bytes_eq]
  rfl

end OutcomeRecord

/-! ## Files that grow -/

namespace FileTree

variable {tree after : FileTree} {path : Path}

/-- What a path that is opened to append leads to: a device that takes nothing, or a file, which is
empty if there was nothing before. -/
inductive Opens (tree : FileTree) (location : Location) : Entry → Prop where
  | device (stood : tree.get? location = some .fullDevice) : Opens tree location .fullDevice
  | file {content : ByteArray} {time : Int} (stood : tree.get? location = some (.file content time)) :
      Opens tree location (.file content time)
  | made {time : Int} (free : tree.get? location = none) : Opens tree location (.file .empty time)

/-- A path that is opened to append leads to a place that takes bytes, and all else is left in place. -/
theorem Sound.openToAppend_spec (sound : tree.Sound) (opened : tree.openToAppend path = .ok after) :
    after.Sound ∧ after.workingDirectory = tree.workingDirectory ∧
      (∀ location, Retains tree after location) ∧
      ∃ location entry, after.find path = .ok (location, entry) ∧ Opens tree location entry := by
  simp only [openToAppend] at opened
  cases placed : tree.placeToWrite path with
  | error failure =>
      rw [placed] at opened
      cases opened
  | ok place =>
      rw [placed] at opened
      obtain ⟨resolved, nowhere⟩ := sound.placeToWrite_spec placed
      have holds := sound.resolve_holds resolved
      cases place with
      | present location entry =>
          cases opened
          have blocked : entry.way = .nowhere := holds.1.symm.trans nowhere
          have held := holds.2 (Way.ne_onward_of_nowhere blocked)
          have found := find_eq_ok_iff.mpr (sound.resolve_of_grows ⟨rfl, fun _ _ => rfl⟩ resolved
            nowhere held blocked (.inr rfl))
          refine ⟨sound, rfl, fun _ => .refl tree _, location, entry, found, ?_⟩
          cases entry with
          | file => exact .file held
          | fullDevice => exact .device held
          | directory | link => cases blocked
      | absent location =>
          cases opened
          have inside := ne_nil_of_way_nowhere nowhere
          have changes : Changes tree (tree.enter location (.file .empty tree.clock)) location
              (some (.file .empty tree.clock)) :=
            changes_enter tree inside Way.noConfusion
          have found := find_eq_ok_iff.mpr (sound.resolve_transfer resolved nowhere changes rfl
            (.inr rfl))
          refine ⟨sound.enter_absent holds _, changes.workingDirectory, fun other => ?_, location, _,
            found, .made holds.1⟩
          by_cases same : other = location
          · subst same
            intro entry held
            cases holds.1.symm.trans held
          · exact (spares_enter same).retains

end FileTree

namespace OutcomeLog

open FileTree (Retains AddsDirectories)

variable {tree opened : FileTree} {path : Path}

/-- A log is opened once its directory is made. -/
theorem openToAppend_of_start (started : start path tree = (.ok (), opened)) :
    ∃ middle : FileTree, (middle = tree ∨ ∃ directory, middle = (tree.makeDirectories directory).2) ∧
      middle.openToAppend path = .ok opened := by
  rw [start] at started
  split at started
  rename_i made middle prepared
  have origin : middle = tree ∨ ∃ directory, middle = (tree.makeDirectories directory).2 := by
    cases around : path.parent? with
    | none =>
        rw [around] at prepared
        exact .inl (Prod.mk.inj prepared).2.symm
    | some directory =>
        rw [around] at prepared
        exact .inr ⟨directory, (congrArg Prod.snd prepared).symm⟩
  refine ⟨middle, origin, ?_⟩
  split at started
  · cases started
  split at started
  · cases started
  · rename_i ready
    rw [ready, (Prod.mk.inj started).2]

/-- A log that is opened is a place that takes bytes, with what it held before. -/
theorem start_spec (sound : tree.Sound) (started : start path tree = (.ok (), opened)) :
    opened.Sound ∧ ∃ location entry, opened.find path = .ok (location, entry) ∧
      FileTree.Opens tree location entry ∧
      ∀ former content time, tree.find path = .ok (former, .file content time) →
        former = location ∧ entry = .file content time := by
  obtain ⟨middle, origin, ready⟩ := openToAppend_of_start started
  obtain ⟨made, added, workingDirectory, retained⟩ : middle.Sound ∧ AddsDirectories tree middle ∧
      middle.workingDirectory = tree.workingDirectory ∧ ∀ location, Retains tree middle location := by
    rcases origin with rfl | ⟨directory, rfl⟩
    · exact ⟨sound, .refl _, rfl, .refl _⟩
    · obtain ⟨made, links⟩ := sound.makeDirectories_spec directory
      exact ⟨made, sound.addsDirectories_makeDirectories directory, links.workingDirectory,
        fun _ => sound.retains_makeDirectories directory⟩
  obtain ⟨after, sameDirectory, kept, location, entry, found, opens⟩ := made.openToAppend_spec ready
  have retains (place : Location) : Retains tree opened place :=
    (retained place).trans (kept place)
  have grows : FileTree.Grows tree opened :=
    .of_retains (sameDirectory.trans workingDirectory) retains
  refine ⟨after, location, entry, found, ?_, ?_⟩
  · cases opens with
    | device stood => exact .device (added _ _ stood Way.noConfusion)
    | file stood => exact .file (added _ _ stood Way.noConfusion)
    | made free => exact .made ((retained location).free free)
  · intro former content time led
    have resolved := FileTree.find_eq_ok_iff.mp led
    have holds := sound.resolve_holds resolved
    have held := (retains former _ (holds.2 Way.noConfusion)).2 Way.noConfusion
    have still := FileTree.find_eq_ok_iff.mpr
      (sound.resolve_of_grows grows resolved holds.1 held rfl (.inl rfl))
    cases found.symm.trans still
    exact ⟨rfl, rfl⟩

/-- What is added to a file stands behind what it held. -/
theorem add_spec (sound : tree.Sound) {location : Location} {held : ByteArray} {time : Int}
    (found : tree.find path = .ok (location, .file held time)) (record : OutcomeRecord) :
    (add path tree record).Sound ∧ (add path tree record).find path =
      .ok (location, .file (held ++ record.line.toUTF8) tree.clock) := by
  have longer : tree.append path record.line.toUTF8 =
      .ok (tree.put location (.file (held ++ record.line.toUTF8) tree.clock)) := by
    rw [FileTree.append, found]
    rfl
  have added : add path tree record =
      tree.put location (.file (held ++ record.line.toUTF8) tree.clock) := by
    rw [add, longer]
  obtain ⟨after, _⟩ := sound.append_spec longer
  have resolved := FileTree.find_eq_ok_iff.mp found
  have nowhere := (sound.resolve_holds resolved).1
  rw [added]
  exact ⟨after, FileTree.find_eq_ok_iff.mpr (sound.resolve_transfer resolved nowhere
    (FileTree.changes_put (FileTree.ne_nil_of_way_nowhere nowhere)) rfl (.inl rfl))⟩

/-- Records that are added to a file stand behind what it held, line by line. -/
theorem foldl_add_spec (sound : tree.Sound) {location : Location} {held : ByteArray} {time : Int}
    (found : tree.find path = .ok (location, .file held time)) (records : List OutcomeRecord) :
    ∃ content later,
      (records.foldl (add path) tree).find path = .ok (location, .file content later) ∧
      content.toList = held.toList ++
        records.flatMap fun record => utf8Bytes record.toJson.compact ++ [10] := by
  induction records generalizing tree held time with
  | nil => exact ⟨held, time, found, (List.append_nil _).symm⟩
  | cons record rest inductionHypothesis =>
      obtain ⟨after, longer⟩ := add_spec sound found record
      obtain ⟨content, later, last, whole⟩ := inductionHypothesis after longer
      refine ⟨content, later, last, ?_⟩
      rw [whole, toList_append, ← utf8Bytes, OutcomeRecord.utf8Bytes_line,
        List.flatMap_cons, List.append_assoc]

/-- A device that takes nothing stays as it is. -/
theorem foldl_add_device {location : Location}
    (found : tree.find path = .ok (location, .fullDevice)) (records : List OutcomeRecord) :
    records.foldl (add path) tree = tree := by
  have same (record : OutcomeRecord) : add path tree record = tree := by
    rw [add, FileTree.append, found]
    rfl
  induction records with
  | nil => rfl
  | cons record rest inductionHypothesis => rw [List.foldl_cons, same, inductionHypothesis]

/-- What a log held before it was opened: the bytes of the file that the path led to, and those of the
file at its place in any case; none if its place was free. -/
structure HeldBefore (path : Path) (tree : FileTree) (location : Location) (held : ByteArray) :
    Prop where
  stood : (∃ time, tree.get? location = some (.file held time)) ∨
    tree.get? location = none ∧ held = .empty
  led : ∀ former content time, tree.find path = .ok (former, .file content time) →
    former = location ∧ content = held

theorem heldBefore_of_led {location : Location} {held : ByteArray} {time : Int}
    (stood : (∃ time, tree.get? location = some (.file held time)) ∨
      tree.get? location = none ∧ held = .empty)
    (led : ∀ former content before, tree.find path = .ok (former, .file content before) →
      former = location ∧ Entry.file held time = .file content before) :
    HeldBefore path tree location held := by
  refine ⟨stood, fun former content before there => ?_⟩
  obtain ⟨place, same⟩ := led former content before there
  exact ⟨place, (Entry.file.inj same).1.symm⟩

/-- Every record is shown by a line behind what the log held. -/
theorem exists_lines (sound : opened.Sound) {location : Location} {held : ByteArray} {time : Int}
    (found : opened.find path = .ok (location, .file held time))
    (before : HeldBefore path tree location held) (records : List OutcomeRecord) :
    ∃ location held content lines time, HeldBefore path tree location held ∧
      (records.foldl (add path) opened).find path = .ok (location, .file content time) ∧
      content.toList = held.toList ++ lines.flatMap (· ++ [10]) ∧
      List.Forall₂ OutcomeRecord.ShownBy records lines := by
  obtain ⟨content, later, last, whole⟩ := foldl_add_spec sound found records
  refine ⟨location, held, content, records.map fun record => utf8Bytes record.toJson.compact, later,
    before, last, ?_, ?_⟩
  · rw [whole, List.flatMap_map]
  · rw [List.forall₂_map_right_iff, List.forall₂_same]
    exact fun record _ => record.shownBy_compact

/-- A log is opened and written: its path leads to a device that takes nothing, or to a file that holds
what it held before, with one line behind it for each record. -/
theorem appends_lines {records : List OutcomeRecord} {written : FileTree} (sound : tree.Sound)
    (done : write path records tree = (.ok (), written)) :
    (∃ location, written.find path = .ok (location, .fullDevice)) ∨
      ∃ location held content lines time, HeldBefore path tree location held ∧
        written.find path = .ok (location, .file content time) ∧
        content.toList = held.toList ++ lines.flatMap (· ++ [10]) ∧
        List.Forall₂ OutcomeRecord.ShownBy records lines := by
  rw [write] at done
  split at done
  · rename_i opened started
    obtain rfl := (Prod.mk.inj done).2
    obtain ⟨after, location, entry, found, opens, led⟩ := start_spec sound started
    cases opens with
    | device =>
        refine .inl ⟨location, ?_⟩
        rw [foldl_add_device found]
        exact found
    | file stood =>
        have before := heldBefore_of_led (.inl ⟨_, stood⟩) led
        exact .inr (exists_lines after found before records)
    | made free =>
        have before := heldBefore_of_led (.inr ⟨free, rfl⟩) led
        exact .inr (exists_lines after found before records)
  · rename_i failed
    exact absurd done (failed _)

end OutcomeLog

namespace Small

open OutcomeLog

/-- A log with something in it. -/
def logged : FileTree :=
  tree [("log", "old")] none

/-- Texts with line breaks and quotes. -/
def outcomes : List OutcomeRecord :=
  [ ⟨1, "a \"session\"", "/r/A\n.java", .success, some 2, none, 3⟩,
    ⟨2, "", "/r/B.java", .parseError, none, some "line 1\r\nline 2", 0⟩ ]

/-- The log after two records. -/
def longer : FileTree :=
  (write ⟨"/r/log"⟩ outcomes logged).2

theorem appends_lines_logged :
    write ⟨"/r/log"⟩ outcomes logged = (.ok (), longer) ∧
      ((∃ location, longer.find ⟨"/r/log"⟩ = .ok (location, .fullDevice)) ∨
        ∃ location held content lines time, HeldBefore ⟨"/r/log"⟩ logged location held ∧
          longer.find ⟨"/r/log"⟩ = .ok (location, .file content time) ∧
          content.toList = held.toList ++ lines.flatMap (· ++ [10]) ∧
          List.Forall₂ OutcomeRecord.ShownBy outcomes lines) := by
  have done : write ⟨"/r/log"⟩ outcomes logged = (.ok (), longer) := by
    rw [longer]
    exact eq_mk_snd (by decide +kernel)
  exact ⟨done, appends_lines (sound_tree none (by decide) (by decide)) done⟩

end Small

end SourceHarvest
