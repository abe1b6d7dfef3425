import SourceHarvest.Fingerprint.Cache
import SourceHarvest.Proofs.FileTree.Around
import SourceHarvest.Proofs.Fingerprint.Order
import SourceHarvest.Proofs.Json.Records
import SourceHarvest.Proofs.Json.RoundTrip
import SourceHarvest.Proofs.Text.Bytes

/-!
# The ledger between runs

A ledger that was saved is loaded again as it was, as long as its numbers have 64 bits.  The
cache is found again where it was put: neither its name nor that of its temporary file may
be taken by a link, and saving itself sees to it that this stays so.
-/

namespace SourceHarvest

open Json

namespace Fingerprint

/-- The numbers of the fingerprint have 64 bits. -/
def Fits (fingerprint : Fingerprint) : Prop :=
  fingerprint.lastModified ≤ greatestWord ∧ fingerprint.chunkCount ≤ greatestWord

/-- A fingerprint that was written is read again if its numbers have 64 bits. -/
theorem ofDocument?_toJson (fingerprint : Fingerprint) (fits : fingerprint.Fits) :
    ofDocument? fingerprint.toJson.document = some fingerprint := by
  have lastModified := Document.natural?_document (Nat.le_refl _) fingerprint.lastModified
  have chunkCount := Document.natural?_document (Nat.le_refl _) fingerprint.chunkCount
  rw [if_pos fits.1] at lastModified
  rw [if_pos fits.2] at chunkCount
  rw [ofDocument?, toJson, Document.fields?_object (by simp)]
  have hash : (Value.text fingerprint.hash).document.text? = some fingerprint.hash := rfl
  simp only [List.map_cons, List.map_nil, List.lookup_cons, List.lookup_nil, Option.map_some, Option.bind_eq_bind,
    Option.bind_some, String.reduceBEq, hash, lastModified, chunkCount, Option.pure_def]

theorem ofDocument?_toJson_eq_none (fingerprint : Fingerprint) (unfit : ¬ fingerprint.Fits) :
    ofDocument? fingerprint.toJson.document = none := by
  have lastModified := Document.natural?_document (Nat.le_refl _) fingerprint.lastModified
  have chunkCount := Document.natural?_document (Nat.le_refl _) fingerprint.chunkCount
  rw [ofDocument?, toJson, Document.fields?_object (by simp)]
  have hash : (Value.text fingerprint.hash).document.text? = some fingerprint.hash := rfl
  simp only [List.map_cons, List.map_nil, List.lookup_cons, List.lookup_nil, Option.map_some, Option.bind_eq_bind,
    Option.bind_some, String.reduceBEq, hash, lastModified, chunkCount, Option.pure_def]
  by_cases early : fingerprint.lastModified ≤ greatestWord
  · have many : ¬ fingerprint.chunkCount ≤ greatestWord := fun few => unfit ⟨early, few⟩
    rw [if_pos early, if_neg many]
    rfl
  · rw [if_neg early]
    rfl

/-- A fingerprint that was read has numbers of 64 bits. -/
theorem fits_ofDocument? {document : Document} {fingerprint : Fingerprint}
    (read : ofDocument? document = some fingerprint) : fingerprint.Fits := by
  rw [ofDocument?, Option.bind_eq_bind, Option.bind_eq_some_iff] at read
  rcases read with ⟨fields, _, read⟩
  split at read
  · simp only [Option.bind_eq_bind, Option.bind_eq_some_iff] at read
    rcases read with ⟨_, _, _, _, _, _, lastModified, early, _, _, chunkCount, few, same⟩
    cases same
    exact ⟨Document.le_of_natural? early, Document.le_of_natural? few⟩
  · cases read

end Fingerprint

namespace Ledger

/-- All numbers in the ledger have 64 bits. -/
def Fits (ledger : Ledger) : Prop :=
  ∀ entry ∈ ledger.entries, entry.2.Fits

theorem Fits.record {ledger : Ledger} (fits : ledger.Fits) (path : Path) {fingerprint : Fingerprint}
    (fit : fingerprint.Fits) : (ledger.record path fingerprint).Fits := by
  intro entry member
  rcases mem_insertMember member with rfl | old
  · exact fit
  · exact fits entry old

theorem Fits.remove {ledger : Ledger} (fits : ledger.Fits) (path : Path) :
    (ledger.remove path).Fits := fun entry member =>
  fits entry (List.mem_of_mem_filter member)

theorem integral_toJson (ledger : Ledger) : ledger.toJson.Integral := by
  have files (entries : List (String × Fingerprint)) : Value.MembersIntegral
      (entries.map fun entry => (entry.1, entry.2.toJson)) := by
    induction entries with
    | nil => trivial
    | cons entry rest inductionHypothesis =>
        exact ⟨⟨trivial, rfl, rfl, trivial⟩, inductionHypothesis⟩
  exact ⟨rfl, files ledger.entries, trivial⟩

theorem ofText?_encode (ledger : Ledger) :
    Document.ofText? ledger.encode = some ledger.toJson.document :=
  Document.ofText?_spread (integral_toJson ledger)

theorem ofDocument?_toJson (ledger : Ledger) :
    ofDocument? ledger.toJson.document =
      ((Value.object (ledger.entries.map fun entry => (entry.1, entry.2.toJson))).document.mapOf?
        Fingerprint.ofDocument?).map fun entries => (version, ⟨entries⟩) := by
  have small : greatestVersion ≤ greatestWord := by decide
  have number := Document.natural?_document small version
  rw [if_pos (by decide)] at number
  rw [ofDocument?, toJson, Document.fields?_object (by simp)]
  simp only [List.map_cons, List.map_nil, List.lookup_cons, List.lookup_nil, Option.map_some, Option.bind_eq_bind,
    Option.bind_some, String.reduceBEq, number, Option.pure_def]
  cases (Value.object (ledger.entries.map fun entry => (entry.1, entry.2.toJson))).document.mapOf?
    Fingerprint.ofDocument? <;> rfl

/-- A ledger that was written is read again if its numbers have 64 bits, in whatever order its
fingerprints were written. -/
theorem decode_encode_of_perm {ledger listed : Ledger} (ordered : ledger.Ordered)
    (fits : ledger.Fits) (listing : listed.entries.Perm ledger.entries) :
    decode listed.encode = ledger := by
  have each (entry : String × Fingerprint) (member : entry ∈ listed.entries) :=
    Fingerprint.ofDocument?_toJson entry.2 (fits entry (listing.mem_iff.mp member))
  have files := Document.mapOf?_object each
  rw [decode, ofText?_encode, Option.bind_some, ofDocument?_toJson, files,
    orderMembers_of_perm ordered listing]
  rfl

theorem decode_encode {ledger : Ledger} (ordered : ledger.Ordered) (fits : ledger.Fits) :
    decode ledger.encode = ledger :=
  decode_encode_of_perm ordered fits (.refl _)

/-- A ledger with greater numbers is written, and then counts as empty. -/
theorem decode_encode_of_unfit {ledger : Ledger} (unfit : ¬ ledger.Fits) :
    decode ledger.encode = empty := by
  obtain ⟨entry, inside, great⟩ : ∃ entry ∈ ledger.entries, ¬ entry.2.Fits := by
    simpa [Fits] using unfit
  have files := Document.mapOf?_object_eq_none inside
    (Fingerprint.ofDocument?_toJson_eq_none entry.2 great)
  rw [decode, ofText?_encode, Option.bind_some, ofDocument?_toJson, files]
  rfl

theorem exists_of_mem_forall₂ {α β : Type} {related : α → β → Prop} {sources : List α}
    {items : List β} (each : List.Forall₂ related sources items) {item : β}
    (member : item ∈ items) : ∃ source, related source item := by
  induction each with
  | nil => cases member
  | cons here _ inductionHypothesis =>
      rcases List.mem_cons.mp member with rfl | inside
      · exact ⟨_, here⟩
      · exact inductionHypothesis inside

theorem mapOf?_spec {read : Document → Option Fingerprint} {document : Document}
    {entries : List (String × Fingerprint)} (found : document.mapOf? read = some entries) :
    Json.Ordered entries ∧ ∀ entry ∈ entries, ∃ value, read value = some entry.2 := by
  obtain ⟨members, listed, rfl, each, rfl⟩ := Document.mapOf?_eq_some_iff.mp found
  refine ⟨ordered_orderMembers listed, fun entry member => ?_⟩
  obtain ⟨source, _, value⟩ := exists_of_mem_forall₂ each (mem_orderMembers member)
  exact ⟨source.2, value⟩

/-- What is read from a cache is ordered and has numbers of 64 bits, whatever its text is. -/
theorem decode_spec (text : String) : (decode text).Ordered ∧ (decode text).Fits := by
  have nothing : empty.Ordered ∧ empty.Fits :=
    ⟨ordered_empty, fun _ impossible => by cases impossible⟩
  rw [decode]
  cases read : (Document.ofText? text).bind ofDocument? with
  | none => exact nothing
  | some found =>
      rcases Option.bind_eq_some_iff.mp read with ⟨document, _, here⟩
      simp only
      split
      · rw [ofDocument?, Option.bind_eq_bind, Option.bind_eq_some_iff] at here
        rcases here with ⟨fields, _, here⟩
        split at here
        · simp only [Option.bind_eq_bind, Option.bind_eq_some_iff] at here
          rcases here with ⟨_, _, _, _, files, _, entries, listed, same⟩
          cases same
          rcases mapOf?_spec listed with ⟨ordered, given⟩
          refine ⟨ordered, fun entry member => ?_⟩
          rcases given entry member with ⟨value, known⟩
          exact Fingerprint.fits_ofDocument? known
        · cases here
      · exact nothing

/-- What is loaded was decoded, or there was nothing to load. -/
theorem load_eq_ok {tree : FileTree} {cachePath : Path} {ledger : Ledger}
    (loaded : load tree cachePath = .ok ledger) : ledger = empty ∨ ∃ text, ledger = decode text := by
  rw [load] at loaded
  split at loaded
  · cases read : Failure.during "Failed to read fingerprint cache"
      (Failure.ofFileResult (tree.readText cachePath)) with
    | error failure =>
        rw [read] at loaded
        cases loaded
    | ok text =>
        rw [read] at loaded
        cases loaded
        exact .inr ⟨text, rfl⟩
  · cases loaded
    exact .inl rfl

theorem ordered_of_load {tree : FileTree} {cachePath : Path} {ledger : Ledger}
    (loaded : load tree cachePath = .ok ledger) : ledger.Ordered := by
  rcases load_eq_ok loaded with rfl | ⟨text, rfl⟩
  · exact ordered_empty
  · exact (decode_spec text).1

theorem fits_of_load {tree : FileTree} {cachePath : Path} {ledger : Ledger}
    (loaded : load tree cachePath = .ok ledger) : ledger.Fits := by
  rcases load_eq_ok loaded with rfl | ⟨text, rfl⟩
  · exact fun _ impossible => by cases impossible
  · exact (decode_spec text).2

/-- What is loaded depends on what the path of the cache leads to. -/
theorem load_congr {tree other : FileTree} {cachePath : Path}
    (same : other.find cachePath = tree.find cachePath) :
    load other cachePath = load tree cachePath := by
  rw [load, load, FileTree.exists, FileTree.exists, FileTree.readText, FileTree.readText,
    FileTree.read, FileTree.read, same]

/-- What is loaded from a file is decided by its bytes, as far as they are a text. -/
theorem load_of_file {tree : FileTree} {cachePath : Path} {location : Location}
    {content : ByteArray} {time : Int}
    (found : tree.find cachePath = .ok (location, .file content time)) :
    load tree cachePath =
      match String.fromUTF8? content with
      | some text => .ok (decode text)
      | none => .error ((Failure.ofFile .notText).context "Failed to read fingerprint cache") := by
  have there : tree.exists cachePath = true := by
    rw [FileTree.exists, found]
    rfl
  rw [load, if_pos there, FileTree.readText, FileTree.read, found]
  simp only [bind, Except.bind, pure, Except.pure]
  cases String.fromUTF8? content <;> rfl

/-- A cache that holds the text of a ledger is loaded as what that text stands for. -/
theorem load_of_find {tree : FileTree} {cachePath : Path} {location : Location} {text : String}
    {time : Int} (found : tree.find cachePath = .ok (location, .file text.toUTF8 time)) :
    load tree cachePath = .ok (decode text) := by
  rw [load_of_file found, fromUTF8?_toUTF8]

/-- A cache that is not there is loaded as empty. -/
theorem load_of_absent {tree : FileTree} {cachePath : Path} {error : FileError}
    (absent : tree.find cachePath = .error error) : load tree cachePath = .ok empty := by
  rw [load, if_neg]
  · rfl
  · rw [FileTree.exists, absent]
    simp [Except.toBool]

/-- A cache that is there and can be loaded is a file. -/
theorem exists_file_of_load {tree : FileTree} {cachePath : Path} {ledger : Ledger}
    (loaded : load tree cachePath = .ok ledger) (there : tree.exists cachePath = true) :
    ∃ location content time, tree.find cachePath = .ok (location, .file content time) := by
  rw [load, if_pos there, FileTree.readText, FileTree.read] at loaded
  cases found : tree.find cachePath with
  | error failure =>
      rw [FileTree.exists, found] at there
      cases there
  | ok result =>
      rcases result with ⟨location, entry⟩
      rw [found] at loaded
      cases entry with
      | file content time => exact ⟨location, content, time, rfl⟩
      | directory | link | fullDevice => cases loaded

/-- A text that is no document of this version stands for the empty ledger. -/
theorem decode_eq_empty {text : String}
    (foreign : ∀ found, (Document.ofText? text).bind ofDocument? = some found → found.1 ≠ version) :
    decode text = empty := by
  rw [decode]
  split
  · rename_i number ledger read
    rw [if_neg (foreign _ read)]
  · rfl

end Ledger

/-! ## Where the cache lies -/

/-- A cache can be kept at a path: the tree is sound, and however directories come and go, neither
the name of the cache nor that of its temporary file is taken by a link. -/
structure FileTree.Keeps (tree : FileTree) (cachePath : Path) : Prop where
  sound : tree.Sound
  plain : ∀ other : FileTree, FileTree.SameLinks tree other → ∀ location target,
    other.resolve .itself cachePath ≠ .ok (.present location (.link target)) ∧
      other.resolve .itself (Ledger.temporaryPath cachePath) ≠ .ok (.present location (.link target))

theorem FileTree.Keeps.of_sameLinks {tree other : FileTree} {cachePath : Path}
    (keeps : tree.Keeps cachePath) (sound : other.Sound) (links : FileTree.SameLinks tree other) :
    other.Keeps cachePath :=
  ⟨sound, fun third further => keeps.plain third (links.trans further)⟩

/-- A cache can be kept at a path whatever happens below a directory: nothing down there decides
where the path leads. -/
structure FileTree.Apart (tree : FileTree) (around : Location) (cachePath : Path) : Prop where
  sound : tree.Sound
  plain : ∀ other : FileTree, FileTree.SameLinksAround around tree other → ∀ location target,
    other.resolve .itself cachePath ≠ .ok (.present location (.link target)) ∧
      other.resolve .itself (Ledger.temporaryPath cachePath) ≠ .ok (.present location (.link target))
  steady : ∀ left right : FileTree, FileTree.SameLinksAround around tree left →
    FileTree.SameAround around left right → right.find cachePath = left.find cachePath

namespace FileTree.Apart

variable {tree other : FileTree} {around : Location} {cachePath : Path}

theorem keeps (apart : tree.Apart around cachePath) : tree.Keeps cachePath :=
  ⟨apart.sound, fun other links => apart.plain other (links.around around)⟩

theorem of_links (apart : tree.Apart around cachePath) (sound : other.Sound)
    (links : FileTree.SameLinksAround around tree other) : other.Apart around cachePath :=
  ⟨sound, fun third further => apart.plain third (links.trans further),
    fun left right further => apart.steady left right (links.trans further)⟩

/-- What happens below the directory does not change what is loaded. -/
theorem load_eq (apart : tree.Apart around cachePath) (same : FileTree.SameAround around tree other) :
    Ledger.load other cachePath = Ledger.load tree cachePath :=
  Ledger.load_congr (apart.steady tree other (.refl around tree) same)

/-- A path of plain names outside the directory, with no link on the way, is such a path. -/
theorem of_names {names temporary : List String} (sound : tree.Sound)
    (temporaryPath : Ledger.temporaryPath (Path.ofNames names) = Path.ofNames temporary)
    (plain : ∀ path ∈ [names, temporary], path ≠ [] ∧ (∀ name ∈ path, Path.IsPlain name) ∧
      ¬ around <+: path ∧ tree.Unlinked [] path) :
    tree.Apart around (Path.ofNames names) where
  sound := sound
  plain other links location target := by
    have unlinked (path : List String) (member : path ∈ [names, temporary]) :
        other.resolve .itself (Path.ofNames path) ≠ .ok (.present location (.link target)) := by
      rcases plain path member with ⟨nonempty, legal, outside, free⟩
      have otherFree := free.of_around links outside
      intro resolved
      exact (FileTree.resolve_ofNames_spec nonempty legal otherFree resolved).2 location target rfl
    rw [temporaryPath]
    exact ⟨unlinked names (by simp), unlinked temporary (by simp)⟩
  steady left right links same := by
    rcases plain names List.mem_cons_self with ⟨nonempty, legal, outside, free⟩
    exact same.find_eq nonempty legal outside (free.of_around links outside)

end FileTree.Apart

namespace Ledger

theorem isEmpty_encode (ledger : Ledger) : ledger.encode.toUTF8.isEmpty = false := by
  rw [Bool.eq_false_iff]
  intro empty
  have size : ledger.encode.toUTF8.size = 0 := by
    simpa [ByteArray.isEmpty] using empty
  have blank : ledger.encode = "" := String.utf8ByteSize_eq_zero_iff.mp size
  have brace : ledger.encode.toList = [] := by
    rw [blank]
    rfl
  rw [encode, toJson, Value.spread, String.toList_ofList, Value.writeSpread] at brace
  cases brace

/-- The tree after the directories around a cache were made. -/
def prepared (cachePath : Path) (tree : FileTree) : Except FileError Unit × FileTree :=
  match cachePath.parent? with
  | some directory => tree.makeDirectories directory
  | none => (.ok (), tree)

/-- The directories around a cache can be made without a change to links. -/
theorem prepared_spec {tree : FileTree} (sound : tree.Sound) (cachePath : Path) :
    (prepared cachePath tree).2.Sound ∧ FileTree.SameLinks tree (prepared cachePath tree).2 := by
  rw [prepared]
  split
  · exact sound.makeDirectories_spec _
  · exact ⟨sound, .refl tree⟩

/-- How saving goes: the directories around a cache are made, its text is written to the temporary
file, and that takes the place of the cache.  Each of these can fail, and then the rest is not done. -/
inductive Saves (ledger : Ledger) (cachePath : Path) (tree : FileTree) :
    Except Failure Unit → FileTree → Prop where
  | unprepared {error : FileError} (unready : (prepared cachePath tree).1 = .error error) :
      Saves ledger cachePath tree (.error (Failure.ofFile error)) (prepared cachePath tree).2
  | unwritten {error : FileError} (ready : (prepared cachePath tree).1 = .ok ())
      (refused : (prepared cachePath tree).2.write (temporaryPath cachePath) ledger.encode.toUTF8 =
        .error error) :
      Saves ledger cachePath tree
        (.error ((Failure.ofFile error).context "Failed to write fingerprint cache"))
        (prepared cachePath tree).2
  | unreplaced {written : FileTree} {error : FileError} (ready : (prepared cachePath tree).1 = .ok ())
      (wrote : (prepared cachePath tree).2.write (temporaryPath cachePath) ledger.encode.toUTF8 =
        .ok written)
      (refused : written.rename (temporaryPath cachePath) cachePath = .error error) :
      Saves ledger cachePath tree
        (.error ((Failure.ofFile error).context "Failed to replace fingerprint cache")) written
  | replaced {written after : FileTree} (ready : (prepared cachePath tree).1 = .ok ())
      (wrote : (prepared cachePath tree).2.write (temporaryPath cachePath) ledger.encode.toUTF8 =
        .ok written)
      (renamed : written.rename (temporaryPath cachePath) cachePath = .ok after) :
      Saves ledger cachePath tree (.ok ()) after

theorem saves_of_save {ledger : Ledger} {cachePath : Path} {tree after : FileTree}
    {result : Except Failure Unit} (saved : ledger.save cachePath tree = (result, after)) :
    Saves ledger cachePath tree result after := by
  rw [save] at saved
  split at saved
  rename_i made directories known
  obtain ⟨rfl, rfl⟩ := Prod.mk.inj (show prepared cachePath tree = (made, directories) from known)
  split at saved
  · rename_i error unready
    cases saved
    exact .unprepared unready
  · rename_i ready
    split at saved
    · rename_i error refused
      cases saved
      exact .unwritten ready refused
    · rename_i written wrote
      split at saved
      · rename_i error refused
        cases saved
        exact .unreplaced ready wrote refused
      · rename_i replaced renamed
        cases saved
        exact .replaced ready wrote renamed

/-- Saving writes the temporary file and then renames it. -/
theorem save_eq_ok {ledger : Ledger} {cachePath : Path} {tree after : FileTree}
    (saved : ledger.save cachePath tree = (.ok (), after)) :
    ∃ written, (prepared cachePath tree).2.write (temporaryPath cachePath) ledger.encode.toUTF8 =
        .ok written ∧
      written.rename (temporaryPath cachePath) cachePath = .ok after := by
  cases saves_of_save saved with
  | replaced _ wrote renamed => exact ⟨_, wrote, renamed⟩

/-- A text is written to the temporary file at one place, which then comes to another place, that
of the cache. -/
structure Replaces (tree written after : FileTree) (cachePath : Path) (content : ByteArray)
    (place goal : FileTree.Place) : Prop where
  filled : tree.resolve .filled (temporaryPath cachePath) = .ok place
  itself : tree.resolve .itself (temporaryPath cachePath) = .ok place
  nowhere : tree.way place.location = .nowhere
  writtenSound : written.Sound
  links : FileTree.SameLinks tree written
  moved : written.resolve .itself (temporaryPath cachePath) =
    .ok (.present place.location (.file content tree.clock))
  found : written.resolve .itself cachePath = .ok goal
  calm : written.way goal.location ≠ .onward
  sound : after.Sound
  changes : FileTree.Changes written after goal.location (some (.file content tree.clock))

/-- Where no link is in the place of the cache, nothing leads on there. -/
theorem Replaces.nowhere_of_unlinked {tree written after : FileTree} {cachePath : Path}
    {content : ByteArray} {place goal : FileTree.Place}
    (replaces : Replaces tree written after cachePath content place goal)
    (unlinked : ∀ location target, goal ≠ .present location (.link target)) :
    written.way goal.location = .nowhere := by
  have holds := replaces.writtenSound.resolve_holds replaces.found
  cases goal with
  | absent location => exact FileTree.way_absent holds
  | present location entry =>
      have same : written.way location = entry.way := holds.1
      cases entry with
      | directory time => exact absurd same replaces.calm
      | link target => exact absurd rfl (unlinked location target)
      | file | fullDevice => exact same

/-- Where the temporary file is no link, it comes to the place of the cache, which is no directory;
up to then all links stay as they are. -/
theorem exists_replaces {tree written after : FileTree} {cachePath : Path} {content : ByteArray}
    (nonempty : content.isEmpty = false) (sound : tree.Sound)
    (plain : ∀ location target, tree.resolve .itself (temporaryPath cachePath) ≠
      .ok (.present location (.link target)))
    (wrote : tree.write (temporaryPath cachePath) content = .ok written)
    (renamed : written.rename (temporaryPath cachePath) cachePath = .ok after) :
    ∃ place goal, Replaces tree written after cachePath content place goal := by
  obtain ⟨place, filled, nowhere, writtenSound, wroteChange⟩ := sound.write_spec nonempty wrote
  have itself := FileTree.resolve_itself_of_filled plain filled
  have moved := sound.resolve_transfer itself nowhere wroteChange rfl (.inl rfl)
  have links : FileTree.SameLinks tree written :=
    wroteChange.sameLinks (fun target follow => by cases nowhere.symm.trans follow) (fun target follow => by
      cases (FileTree.way_of_get? wroteChange.held).symm.trans follow)
  obtain ⟨goal, found, calm, afterSound, changes⟩ := writtenSound.rename_spec moved rfl renamed
  exact ⟨place, goal, filled, itself, nowhere, writtenSound, links, moved, found, calm, afterSound,
    changes⟩

/-- The temporary file and then the cache hold what was written, and links stay as they are. -/
theorem replace_spec {tree written after : FileTree} {cachePath : Path} {content : ByteArray}
    (nonempty : content.isEmpty = false) (keeps : tree.Keeps cachePath)
    (wrote : tree.write (temporaryPath cachePath) content = .ok written)
    (renamed : written.rename (temporaryPath cachePath) cachePath = .ok after) :
    (∃ location time, after.find cachePath = .ok (location, .file content time)) ∧
      after.Sound ∧ FileTree.SameLinks tree after := by
  obtain ⟨place, goal, replaces⟩ := exists_replaces nonempty keeps.sound
    (fun location target => (keeps.plain tree (.refl tree) location target).2) wrote renamed
  -- What stands in the place of the cache is no directory, and no link either.
  have free : written.way goal.location = .nowhere := replaces.nowhere_of_unlinked
    fun location target linked => (keeps.plain written replaces.links location target).1
      (linked ▸ replaces.found)
  have renameLinks : FileTree.SameLinks written after :=
    replaces.changes.sameLinks (fun target follow => by cases free.symm.trans follow)
      (fun target follow => by
        cases (FileTree.way_of_get? replaces.changes.held).symm.trans follow)
  have there := replaces.writtenSound.resolve_transfer replaces.found free replaces.changes rfl
    (.inr rfl)
  exact ⟨⟨goal.location, _, FileTree.find_eq_ok_iff.mpr there⟩, replaces.sound,
    replaces.links.trans renameLinks⟩

/-- A ledger that was saved is what is loaded next, and all links are left alone. -/
theorem save_spec {ledger : Ledger} {cachePath : Path} {tree after : FileTree}
    (keeps : tree.Keeps cachePath) (saved : ledger.save cachePath tree = (.ok (), after)) :
    load after cachePath = .ok (decode ledger.encode) ∧ after.Sound ∧
      FileTree.SameLinks tree after := by
  rcases prepared_spec keeps.sound cachePath with ⟨sound, links⟩
  rcases save_eq_ok saved with ⟨written, wrote, renamed⟩
  obtain ⟨⟨location, time, found⟩, afterSound, replaced⟩ := replace_spec (isEmpty_encode ledger)
    (keeps.of_sameLinks sound links) wrote renamed
  exact ⟨load_of_find found, afterSound, links.trans replaced⟩

end Ledger

end SourceHarvest
