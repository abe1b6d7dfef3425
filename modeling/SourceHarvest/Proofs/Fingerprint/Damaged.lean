import SourceHarvest.Proofs.Fingerprint.Persistence

/-!
# Caches that cannot be used

A file in the place of the cache may hold any bytes.  Which of them are a cache is told here
without a reader: by the grammar of JSON, and by which documents are records, maps and natural
numbers.  A cache is loaded as the ledger that it shows, and a text that is no cache as the
empty ledger.  Bytes that are no text at all are not recovered from: they make loading fail.
-/

namespace SourceHarvest

open Json

namespace Fingerprint

/-- The document shows the fingerprint. -/
def ShownBy (fingerprint : Fingerprint) (document : Document) : Prop :=
  ∃ lastModified chunkCount : Document,
    document.IsRecord [("hash", .text (some fingerprint.hash)), ("lastModified", lastModified),
      ("chunkCount", chunkCount)] ∧
    lastModified.IsNatural fingerprint.lastModified ∧
    chunkCount.IsNatural fingerprint.chunkCount ∧ fingerprint.Fits

theorem ofDocument?_eq_some_iff {document : Document} {fingerprint : Fingerprint} :
    ofDocument? document = some fingerprint ↔ fingerprint.ShownBy document := by
  constructor
  · intro read
    have fits := fits_ofDocument? read
    rw [ofDocument?, Option.bind_eq_bind, Option.bind_eq_some_iff] at read
    rcases read with ⟨fields, record, read⟩
    split at read
    · simp only [Option.bind_eq_bind, Option.bind_eq_some_iff, Document.text?_eq_some_iff,
        Document.natural?_eq_some_iff (Nat.le_refl _)] at read
      obtain ⟨_, rfl, _, rfl, _, rfl, _, ⟨early, _⟩, _, rfl, _, ⟨few, _⟩, same⟩ := read
      cases same
      exact ⟨_, _, Document.fields?_eq_some_iff.mp record, early, few, fits⟩
    · cases read
  · rintro ⟨lastModified, chunkCount, record, early, few, fits⟩
    have fields := Document.fields?_eq_some_iff.mpr record
    have lastModifiedRead := (Document.natural?_eq_some_iff (Nat.le_refl _)).mpr ⟨early, fits.1⟩
    have chunkCountRead := (Document.natural?_eq_some_iff (Nat.le_refl _)).mpr ⟨few, fits.2⟩
    simp only [List.map_cons, List.map_nil] at fields
    simp only [ofDocument?, fields, Option.bind_eq_bind, Option.bind_some, Document.text?,
      lastModifiedRead, chunkCountRead, Option.pure_def]

end Fingerprint

namespace Ledger

/-- The document is a map that shows the ledger: each member shows the fingerprint of the path
that it is named after, and of several members with one name the last counts. -/
inductive ShownBy (ledger : Ledger) : Document → Prop
  | intro {members : List (Option String × Document)} {entries : List (String × Fingerprint)} :
      List.Forall₂ (fun member entry => member.1 = some entry.1 ∧ entry.2.ShownBy member.2)
          members entries →
        ledger.Ordered → (∀ path, ledger.get? path = entries.reverse.lookup path.text) →
        ShownBy ledger (.object members)

theorem mapOf?_eq_some_iff {ledger : Ledger} {document : Document} :
    document.mapOf? Fingerprint.ofDocument? = some ledger.entries ↔ ledger.ShownBy document := by
  simp only [Document.mapOf?_eq_some_iff, Fingerprint.ofDocument?_eq_some_iff,
    orderMembers_eq_iff]
  constructor
  · rintro ⟨members, entries, rfl, each, ordered, last⟩
    exact .intro each ordered fun path => last path.text
  · rintro ⟨each, ordered, last⟩
    exact ⟨_, _, rfl, each, ordered, fun name => last ⟨name⟩⟩

theorem ofDocument?_eq_some_iff {document : Document} {number : Nat} {ledger : Ledger} :
    ofDocument? document = some (number, ledger) ↔
      ∃ found files : Document, document.IsRecord [("version", found), ("files", files)] ∧
        found.IsNatural number ∧ number ≤ greatestVersion ∧ ledger.ShownBy files := by
  have within : greatestVersion ≤ greatestWord := by decide
  constructor
  · intro read
    rw [ofDocument?, Option.bind_eq_bind, Option.bind_eq_some_iff] at read
    rcases read with ⟨fields, record, read⟩
    split at read
    · simp only [Option.bind_eq_bind, Option.bind_eq_some_iff,
        Document.natural?_eq_some_iff within] at read
      obtain ⟨_, rfl, _, ⟨natural, small⟩, _, rfl, _, shown, same⟩ := read
      cases same
      exact ⟨_, _, Document.fields?_eq_some_iff.mp record, natural, small,
        mapOf?_eq_some_iff.mp shown⟩
    · cases read
  · rintro ⟨found, files, record, natural, small, shown⟩
    have fields := Document.fields?_eq_some_iff.mpr record
    have numberRead := (Document.natural?_eq_some_iff within).mpr ⟨natural, small⟩
    have entriesRead := mapOf?_eq_some_iff.mpr shown
    simp only [List.map_cons, List.map_nil] at fields
    simp only [ofDocument?, fields, Option.bind_eq_bind, Option.bind_some, numberRead, entriesRead,
      Option.pure_def]

/-- The text is a cache of this version that shows the ledger. -/
def CachedAs (ledger : Ledger) (text : String) : Prop :=
  ∃ document found files : Document, document.Writes text ∧
    document.IsRecord [("version", found), ("files", files)] ∧ found.IsNatural version ∧
    ledger.ShownBy files

theorem cachedAs_iff {ledger : Ledger} {text : String} :
    ledger.CachedAs text ↔ (Document.ofText? text).bind ofDocument? = some (version, ledger) := by
  simp only [CachedAs, Option.bind_eq_some_iff, Document.ofText?_eq_some_iff,
    ofDocument?_eq_some_iff]
  constructor
  · rintro ⟨document, found, files, written, record, natural, shown⟩
    exact ⟨document, written, found, files, record, natural, by decide, shown⟩
  · rintro ⟨document, written, found, files, record, natural, _, shown⟩
    exact ⟨document, found, files, written, record, natural, shown⟩

/-- A text stands for the ledger that it is a cache of, and for the empty one if it is no cache. -/
theorem decode_eq_iff {text : String} {ledger : Ledger} :
    decode text = ledger ↔
      ledger.CachedAs text ∨ (∀ other : Ledger, ¬ other.CachedAs text) ∧ ledger = empty := by
  simp only [cachedAs_iff]
  cases read : (Document.ofText? text).bind ofDocument? with
  | none => simp [decode, read, eq_comm]
  | some found =>
      rcases found with ⟨number, shown⟩
      by_cases same : number = version
      · simp [decode, read, same]
      · simp [decode, read, same, eq_comm]

example : decode "[1, \x7b\"/a\": [\"h\", 5, 2]\x7d]" = ⟨[("/a", ⟨"h", 5, 2⟩)]⟩ := by
  decide +kernel

/-- A text shows one ledger at most. -/
theorem CachedAs.unique {first second : Ledger} {text : String} (one : first.CachedAs text)
    (other : second.CachedAs text) : first = second :=
  (decode_eq_iff.mpr (.inl one)).symm.trans (decode_eq_iff.mpr (.inl other))

/-- A file in the place of the cache is loaded as the ledger that its text is a cache of, and as
the empty ledger if its text is no cache.  Loading fails exactly if its bytes are no text. -/
theorem load_file_iff {tree : FileTree} {cachePath : Path} {location : Location}
    {content : ByteArray} {time : Int}
    (found : tree.find cachePath = .ok (location, .file content time)) :
    (∀ ledger, load tree cachePath = .ok ledger ↔
      ∃ text : String, content = text.toUTF8 ∧
        (ledger.CachedAs text ∨ (∀ other : Ledger, ¬ other.CachedAs text) ∧ ledger = empty)) ∧
    (∀ failure, load tree cachePath = .error failure ↔
      (∀ text : String, content ≠ text.toUTF8) ∧
        failure = (Failure.ofFile .notText).context "Failed to read fingerprint cache") := by
  simp only [load_of_file found, ← decode_eq_iff, ← fromUTF8?_eq_some_iff, ne_eq]
  cases String.fromUTF8? content <;> simp [eq_comm]

end Ledger

namespace Small

/-- A cache that holds a byte which no text has. -/
def spoiled : FileTree where
  entries := [(["cache.json"], .file ⟨#[0xFF]⟩ 5000)]
  workingDirectory := []
  clock := 5000

/-- Such a cache cannot be loaded. -/
theorem load_file_iff_spoiled :
    spoiled.find ⟨"/cache.json"⟩ = .ok (["cache.json"], .file ⟨#[0xFF]⟩ 5000) ∧
      (∀ text : String, (⟨#[0xFF]⟩ : ByteArray) ≠ text.toUTF8) ∧
      ∀ ledger, Ledger.load spoiled ⟨"/cache.json"⟩ ≠ .ok ledger := by
  have found : spoiled.find ⟨"/cache.json"⟩ = .ok (["cache.json"], .file ⟨#[0xFF]⟩ 5000) := by
    decide +kernel
  obtain ⟨loads, fails⟩ := Ledger.load_file_iff found
  have failed : Ledger.load spoiled ⟨"/cache.json"⟩ =
      .error ((Failure.ofFile .notText).context "Failed to read fingerprint cache") := by
    decide +kernel
  refine ⟨found, ((fails _).mp failed).1, fun ledger loaded => ?_⟩
  rw [failed] at loaded
  cases loaded

end Small

end SourceHarvest
