import SourceHarvest.Proofs.Ingestion.Limits
import SourceHarvest.Proofs.Ingestion.Questions

/-!
# What a file yields

The units that are found in the tree of a file decide what becomes of it.  Where there are some, they
are cut and bounded, whether or not there are syntax errors beside them.  Where there are none, a file
with syntax errors fails, and any other is taken as a whole or yields nothing.  A file that yields
nothing is processed all the same: its old chunks are dropped, and no call is made for new ones.
-/

namespace SourceHarvest

namespace BoundedChunks

/-- The units that are found in the tree of a file. -/
def unitsInTree (configuration : Configuration) (path : Path) (relativePath : String)
    (parsed : ParsedSource) : List ExtractedChunk :=
  parsed.tree.extract ((configuration.unitsFor? parsed.language).getD [])
    ⟨path, relativePath, parsed.language, parsed.source⟩

/-- The chunks are all windows over units, which have the ids of their places, without the windows that
have too many tokens. -/
def MadeOf (configuration : Configuration) (extracted : List ExtractedChunk)
    (bounded : BoundedChunks) : Prop :=
  ∃ cuts, List.Forall₂ (Chunk.WindowedInto configuration.window) (assignIds extracted) cuts ∧
    bounded.chunks = cuts.flatten.filter
      (fun chunk => estimateTokens chunk.content ≤ configuration.hardTokenLimit) ∧
    bounded.chunks.length + bounded.dropped = cuts.flatten.length

/-- Nothing is found in the tree of a file without syntax errors, and it is not taken as a whole. -/
structure Barren (configuration : Configuration) (path : Path) (relativePath : String)
    (parsed : ParsedSource) : Prop where
  empty : unitsInTree configuration path relativePath parsed = []
  clean : parsed.hasError = false
  unwanted : configuration.wholeFileFallback = true → Text.isBlankText parsed.source.toList = true

end BoundedChunks

namespace FileJob

/-- A file without chunks was processed once its old chunks were dropped, where it has some and they are
to be dropped.  What is said after it was parsed is the call for this and nothing else. -/
inductive Empties (configuration : Configuration) (ledger : Ledger) (root path : Path)
    (source : String) : List Reply → FileReport → Prop where
  | kept (keeps : evicts configuration ledger path = false) (lastModified : Nat) :
      Empties configuration ledger root path source []
        ⟨path, .processed 0, some ⟨contentHash (utf8Bytes source), lastModified, 0⟩, 0⟩
  | evicted (drops : evicts configuration ledger path = true) (lastModified : Nat) :
      Empties configuration ledger root path source [⟨.evict (relativePath root path), .ok ()⟩]
        ⟨path, .processed 0, some ⟨contentHash (utf8Bytes source), lastModified, 0⟩, 0⟩
  | refused (drops : evicts configuration ledger path = true) (failure : Failure) :
      Empties configuration ledger root path source
        [⟨.evict (relativePath root path), .error failure⟩]
        (report path (.error (failure.context "Failed to evict stale rows from vector store")))

end FileJob

namespace BoundedChunks

/-- What a file yields, as its tree decides. -/
structure DecidedByTree (configuration : Configuration) (path : Path) (relativePath : String)
    (parsed : ParsedSource) : Prop where
  fails : ∀ failure, ofParsed configuration path relativePath parsed = .error failure ↔
    parsed.hasError = true ∧ unitsInTree configuration path relativePath parsed = [] ∧
      failure = Failure.ofCause (.emptySyntaxTree path)
  finds : unitsInTree configuration path relativePath parsed ≠ [] →
    ∃ bounded, MadeOf configuration (unitsInTree configuration path relativePath parsed) bounded ∧
      ∀ hasError wholeFileFallback, ofParsed { configuration with wholeFileFallback } path relativePath
        { parsed with hasError } = .ok bounded
  whole : unitsInTree configuration path relativePath parsed = [] → parsed.hasError = false →
    configuration.wholeFileFallback = true → Text.isBlankText parsed.source.toList = false →
    ∃ unit bounded,
      SourceFile.wholeChunk? ⟨path, relativePath, parsed.language, parsed.source⟩ = some unit ∧
        unit.content = parsed.source ∧ MadeOf configuration [unit] bounded ∧
        ofParsed configuration path relativePath parsed = .ok bounded
  nothing : Barren configuration path relativePath parsed →
    ofParsed configuration path relativePath parsed = .ok ⟨[], 0⟩
  /-- A file that yields nothing is processed, and nothing is embedded or stored. -/
  processed : Barren configuration path relativePath parsed →
    ∀ ledger root source dialogue report, FileJob.relativePath root path = relativePath →
      Job.Yields (FileJob.process configuration ledger root path) dialogue report →
      ⟨.parse path source, .ok parsed⟩ ∈ dialogue →
      ∃ before calls, dialogue = before ++ ⟨.parse path source, .ok parsed⟩ :: calls ∧
        (∀ reply ∈ before, reply.request = .modified path ∨ reply.request = .read path) ∧
        FileJob.Empties configuration ledger root path source calls report

variable {configuration : Configuration} {path : Path} {relativePath : String}
  {parsed : ParsedSource}

/-- What is found in the tree comes first, and the file as a whole last. -/
theorem units_eq : units configuration path relativePath parsed =
    if unitsInTree configuration path relativePath parsed = [] then
      if parsed.hasError then .error (Failure.ofCause (.emptySyntaxTree path))
      else if configuration.wholeFileFallback then
        .ok (SourceFile.wholeChunk? ⟨path, relativePath, parsed.language, parsed.source⟩).toList
      else .ok []
    else .ok (unitsInTree configuration path relativePath parsed) := by
  simp only [units]
  rw [← unitsInTree]
  split
  · rename_i empty
    rw [if_pos empty]
  · rename_i filled
    rw [if_neg filled]

theorem units_of_found (found : unitsInTree configuration path relativePath parsed ≠ []) :
    units configuration path relativePath parsed =
      .ok (unitsInTree configuration path relativePath parsed) := by
  rw [units_eq, if_neg found]

/-- Valid settings cut the units of a file into windows. -/
theorem exists_madeOf_of_units (valid : configuration.validate = .ok ())
    {extracted : List ExtractedChunk}
    (found : units configuration path relativePath parsed = .ok extracted) :
    ∃ bounded, MadeOf configuration extracted bounded ∧
      ofParsed configuration path relativePath parsed = .ok bounded := by
  have advances := Configuration.advances_of_validate valid
  obtain ⟨cuts, each, cut⟩ := exists_bound_of_units advances found
  refine ⟨_, ⟨cuts, each.imp fun _ _ done => ?_, rfl, length_bound _ _⟩, cut⟩
  exact Chunk.windowedInto_of_split (WindowSize.advances_iff.mp advances) done

/-- Cutting fails where there are no units, and nowhere else. -/
theorem ofParsed_eq_error_iff (valid : configuration.validate = .ok ()) {failure : Failure} :
    ofParsed configuration path relativePath parsed = .error failure ↔
      parsed.hasError = true ∧ unitsInTree configuration path relativePath parsed = [] ∧
        failure = Failure.ofCause (.emptySyntaxTree path) := by
  cases found : units configuration path relativePath parsed with
  | ok extracted =>
      obtain ⟨bounded, _, cut⟩ := exists_madeOf_of_units valid found
      rw [cut]
      refine iff_of_false (by simp) ?_
      rintro ⟨broken, empty, _⟩
      rw [units_eq, if_pos empty, if_pos broken] at found
      cases found
  | error cause =>
      have failed : ofParsed configuration path relativePath parsed = .error cause := by
        rw [ofParsed, found]
        rfl
      rw [units_eq] at found
      split at found
      · rename_i empty
        split at found
        · rename_i broken
          obtain rfl := Except.error.inj found
          rw [failed, Except.error.injEq]
          exact ⟨fun same => ⟨broken, empty, same.symm⟩, fun same => same.2.2.symm⟩
        · split at found <;> cases found
      · cases found

/-- What is found in a tree is cut whether or not there are errors beside it, and whether or not the file
could be taken as a whole. -/
theorem ofParsed_congr (found : unitsInTree configuration path relativePath parsed ≠ [])
    (hasError wholeFileFallback : Bool) :
    ofParsed { configuration with wholeFileFallback } path relativePath { parsed with hasError } =
      ofParsed configuration path relativePath parsed := by
  rw [ofParsed, ofParsed, units_of_found found]
  exact congrArg (· >>= _) (units_of_found found)

theorem ofParsed_of_barren (barren : Barren configuration path relativePath parsed) :
    ofParsed configuration path relativePath parsed = .ok ⟨[], 0⟩ := by
  have none : units configuration path relativePath parsed = .ok [] := by
    rw [units_eq, if_pos barren.empty, barren.clean, if_neg Bool.false_ne_true]
    split
    · rename_i whole
      rw [SourceFile.wholeChunk?, if_pos (barren.unwanted whole)]
      rfl
    · rfl
  rw [ofParsed, none]
  rfl

end BoundedChunks

namespace FileJob

open Job

/-- Work on a file that was parsed. -/
def ingestParsed (configuration : Configuration) (root path : Path) (indexedBefore : Bool)
    (lastModified : Nat) (source : String) (parsed : ParsedSource) :
    ExceptT Failure Job (Fingerprint × Nat) := do
  let bounded ← ExceptT.mk
    (pure (BoundedChunks.ofParsed configuration path (relativePath root path) parsed))
  let embeddings ← embed bounded.chunks
  evict (indexedBefore && configuration.evictStale) (relativePath root path)
  upsert bounded.chunks embeddings
  pure ({ hash := contentHash (utf8Bytes source), lastModified,
          chunkCount := bounded.chunks.length }, bounded.dropped)

/-- A file is dated, read and parsed before it is cut. -/
theorem ingest_eq_parsed (configuration : Configuration) (root path : Path) (indexedBefore : Bool) :
    ingest configuration root path indexedBefore =
      Tracking.modifiedMillis path >>= fun lastModified =>
        readSource path >>= fun source =>
          ExceptT.mk (question (.parse path source)) >>= fun parsed =>
            ingestParsed configuration root path indexedBefore lastModified source parsed :=
  rfl

variable {configuration : Configuration} {ledger : Ledger} {root path : Path}
  {dialogue : List Reply} {report : FileReport} {source : String} {parsed : ParsedSource}

/-- The question is for the time or the bytes of a file. -/
def Looks (path : Path) (request : Request) : Prop :=
  request = .modified path ∨ request = .read path

/-- Work in which a question comes up that is not allowed in its first part goes on to the second. -/
theorem exists_of_said_later {α β : Type} {allowed : Request → Prop}
    {work : ExceptT Failure Job α} {next : α → ExceptT Failure Job β} {result : Except Failure β}
    (asks : work.run.Asks allowed) (yields : Yields (work >>= next).run dialogue result)
    {reply : Reply} (said : reply ∈ dialogue) (unasked : ¬ allowed reply.request) :
    ∃ first value second, dialogue = first ++ second ∧ (∀ other ∈ first, allowed other.request) ∧
      Yields (next value).run second result ∧ reply ∈ second := by
  rcases yields_exceptBind_iff.mp yields with
    ⟨_, stopped, _⟩ | ⟨first, value, second, rfl, begun, rest⟩
  · exact absurd (asks.of_yields stopped reply said) unasked
  · have allowed := asks.of_yields begun
    refine ⟨first, value, second, rfl, allowed, rest, ?_⟩
    exact (List.mem_append.mp said).resolve_left fun inside => unasked (allowed reply inside)

theorem not_looks_parse : ¬ Looks path (.parse path source) := by
  simp [Looks]

/-- Behind the parser no file is looked at, and no other is parsed. -/
theorem asks_ingestParsed {indexedBefore : Bool} {lastModified : Nat} :
    (ingestParsed configuration root path indexedBefore lastModified source parsed).run.Asks
      fun request => ∀ asked text, request ≠ .parse asked text := by
  rw [ingestParsed]
  refine asks_exceptBind (by trivial) fun _ => ?_
  refine asks_exceptBind (asks_embed _ fun _ => by simp) fun _ => ?_
  refine asks_exceptBind (asks_evict _ (by simp)) fun _ => ?_
  exact asks_exceptBind (asks_upsert _ _ (by simp)) fun _ => trivial

/-- What is said of a file before it is parsed is about its time and its bytes. -/
theorem exists_calls_of_ingest {indexedBefore : Bool} {result : Except Failure (Fingerprint × Nat)}
    (yields : Yields (ingest configuration root path indexedBefore).run dialogue result)
    (said : ⟨.parse path source, .ok parsed⟩ ∈ dialogue) :
    ∃ before calls lastModified, dialogue = before ++ ⟨.parse path source, .ok parsed⟩ :: calls ∧
      (∀ reply ∈ before, Looks path reply.request) ∧
      Yields (ingestParsed configuration root path indexedBefore lastModified source parsed).run
        calls result := by
  rw [ingest_eq_parsed] at yields
  obtain ⟨dating, lastModified, _, rfl, dated, yields, said⟩ :=
    exists_of_said_later (asks_modifiedMillis (.inl rfl)) yields said not_looks_parse
  obtain ⟨reading, text, _, rfl, read, yields, said⟩ :=
    exists_of_said_later (asks_readSource (.inr rfl)) yields said not_looks_parse
  have looked := List.forall_mem_append.mpr ⟨dated, read⟩
  rcases yields_exceptBind_iff.mp yields with
    ⟨_, stopped, _⟩ | ⟨parsing, tree, calls, rfl, asked, rest⟩
  · obtain rfl := yields_question_iff.mp stopped
    cases List.mem_singleton.mp said
  · obtain rfl := yields_question_iff.mp asked
    rcases List.mem_cons.mp said with same | later
    · cases same
      exact ⟨dating ++ reading, calls, lastModified, (List.append_assoc ..).symm, looked, rest⟩
    · exact absurd rfl (asks_ingestParsed.of_yields rest _ later path source)

/-- Where a file was parsed, nothing but its time and its bytes was asked for before, and the rest of the
work comes after. -/
theorem exists_calls_of_process
    (yields : Yields (process configuration ledger root path) dialogue report)
    (said : ⟨.parse path source, .ok parsed⟩ ∈ dialogue) :
    ∃ before calls lastModified result,
      dialogue = before ++ ⟨.parse path source, .ok parsed⟩ :: calls ∧
      (∀ reply ∈ before, Looks path reply.request) ∧
      Yields (ingestParsed configuration root path (ledger.has path) lastModified source parsed).run
        calls result ∧
      report = FileJob.report path result := by
  obtain ⟨asking, work, rfl, dated, rest⟩ := cases_of_yields_process yields
  have looked : ∀ reply ∈ asking, Looks path reply.request := fun reply member =>
    .inl (dated reply member)
  have inside := (List.mem_append.mp said).resolve_left fun early => not_looks_parse (looked _ early)
  rcases rest with ⟨rfl, _⟩ | ⟨result, worked, rfl⟩
  · cases inside
  · obtain ⟨before, calls, lastModified, rfl, further, rest⟩ := exists_calls_of_ingest worked inside
    exact ⟨asking ++ before, calls, lastModified, result, (List.append_assoc ..).symm,
      List.forall_mem_append.mpr ⟨looked, further⟩, rest, rfl⟩

/-- Without chunks, the work ends with the old ones. -/
theorem empties_of_ingestParsed {calls : List Reply} {lastModified : Nat}
    {result : Except Failure (Fingerprint × Nat)}
    (nothing : BoundedChunks.ofParsed configuration path (relativePath root path) parsed =
      .ok ⟨[], 0⟩)
    (yields : Yields (ingestParsed configuration root path (ledger.has path) lastModified source
      parsed).run calls result) :
    Empties configuration ledger root path source calls (FileJob.report path result) := by
  have work : ingestParsed configuration root path (ledger.has path) lastModified source parsed =
      evict (evicts configuration ledger path) (relativePath root path) >>= fun _ =>
        pure (⟨contentHash (utf8Bytes source), lastModified, 0⟩, 0) := by
    rw [ingestParsed, nothing]
    rfl
  rw [work] at yields
  cases drops : evicts configuration ledger path with
  | false =>
      rw [drops] at yields
      obtain ⟨rfl, rfl⟩ := yields_pure_iff.mp yields
      exact .kept drops lastModified
  | true =>
      rw [drops] at yields
      rcases yields_exceptBind_iff.mp yields with
        ⟨failure, stopped, rfl⟩ | ⟨dropping, _, _, rfl, dropped, finished⟩
      · obtain ⟨answer, called, failed⟩ := yields_map_iff.mp stopped
        obtain rfl := yields_question_iff.mp called
        cases (answer : Except Failure Unit) with
        | ok => cases failed
        | error cause =>
            cases failed
            exact .refused drops cause
      · obtain ⟨answer, called, done⟩ := yields_map_iff.mp dropped
        obtain rfl := yields_question_iff.mp called
        obtain ⟨rfl, rfl⟩ := yields_pure_iff.mp finished
        cases (answer : Except Failure Unit) with
        | ok => exact .evicted drops lastModified
        | error => cases done

end FileJob

/-- With valid settings, what a file yields is decided by its tree. -/
theorem BoundedChunks.decided_by_tree {configuration : Configuration} {path : Path}
    {relativePath : String} {parsed : ParsedSource} (valid : configuration.validate = .ok ()) :
    DecidedByTree configuration path relativePath parsed where
  fails _ := ofParsed_eq_error_iff valid
  finds found := by
    obtain ⟨bounded, made, cut⟩ := exists_madeOf_of_units valid (units_of_found found)
    refine ⟨bounded, made, fun hasError wholeFileFallback => ?_⟩
    rw [ofParsed_congr found, cut]
  whole empty clean wanted filled := by
    have taken : units configuration path relativePath parsed = .ok
        (SourceFile.wholeChunk? ⟨path, relativePath, parsed.language, parsed.source⟩).toList := by
      rw [units_eq, if_pos empty, clean, if_neg Bool.false_ne_true, if_pos wanted]
    obtain ⟨bounded, made, cut⟩ := exists_madeOf_of_units valid taken
    rw [SourceFile.wholeChunk?, filled, if_neg Bool.false_ne_true] at made ⊢
    exact ⟨_, bounded, rfl, rfl, made, cut⟩
  nothing := ofParsed_of_barren
  processed barren ledger root source dialogue report same yields said := by
    subst same
    obtain ⟨before, calls, lastModified, result, whole, looked, rest, rfl⟩ :=
      FileJob.exists_calls_of_process yields said
    exact ⟨before, calls, whole, looked,
      FileJob.empties_of_ingestParsed (ofParsed_of_barren barren) rest⟩

namespace Small

/-- Two classes are cut in the same way beside syntax errors. -/
theorem decided_by_tree_echo :
    narrow.validate = .ok () ∧
      ∃ bounded, BoundedChunks.MadeOf narrow
          (BoundedChunks.unitsInTree narrow ⟨"/r/A.java"⟩ "A.java" echo) bounded ∧
        ∀ hasError wholeFileFallback, BoundedChunks.ofParsed { narrow with wholeFileFallback }
          ⟨"/r/A.java"⟩ "A.java" { echo with hasError } = .ok bounded := by
  have valid : narrow.validate = .ok () := by decide +kernel
  exact ⟨valid, (BoundedChunks.decided_by_tree valid).finds (by decide +kernel)⟩

end Small

end SourceHarvest
