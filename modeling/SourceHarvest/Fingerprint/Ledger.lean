import SourceHarvest.Json.Basic
import SourceHarvest.Path

/-!
# Fingerprints of indexed files

A fingerprint remembers a file as it was when it was last indexed.  A ledger holds at
most one fingerprint for each path text, ordered by these texts, so two ledgers with
the same fingerprints are equal.
-/

namespace SourceHarvest

/-- What is remembered of an indexed file: the hash of its bytes, the time of its last
change in milliseconds since 1970, and how many chunks it made. -/
structure Fingerprint where
  hash : String
  lastModified : Nat
  chunkCount : Nat
deriving DecidableEq, Repr

/-- The fingerprints of all indexed files. -/
structure Ledger where
  entries : List (String × Fingerprint)
deriving DecidableEq, Repr

namespace Ledger

/-- No file is indexed. -/
def empty : Ledger := ⟨[]⟩

/-- The fingerprint of a path. -/
def get? (ledger : Ledger) (path : Path) : Option Fingerprint :=
  ledger.entries.lookup path.text

/-- The path has a fingerprint. -/
def has (ledger : Ledger) (path : Path) : Bool :=
  (ledger.get? path).isSome

/-- Give a path a fingerprint, in place of one that it has. -/
def record (ledger : Ledger) (path : Path) (fingerprint : Fingerprint) : Ledger :=
  ⟨Json.insertMember path.text fingerprint ledger.entries⟩

/-- Take the fingerprint of a path away. -/
def remove (ledger : Ledger) (path : Path) : Ledger :=
  ⟨ledger.entries.filter fun entry => entry.1 != path.text⟩

/-- How many paths have a fingerprint. -/
def size (ledger : Ledger) : Nat :=
  ledger.entries.length

theorem get?_record_self (ledger : Ledger) (path : Path) (fingerprint : Fingerprint) :
    (ledger.record path fingerprint).get? path = some fingerprint :=
  Json.lookup_insertMember_self path.text fingerprint ledger.entries

theorem get?_remove_self (ledger : Ledger) (path : Path) : (ledger.remove path).get? path = none := by
  obtain ⟨entries⟩ := ledger
  simp only [get?, remove]
  induction entries with
  | nil => rfl
  | cons entry rest inductionHypothesis =>
      obtain ⟨name, fingerprint⟩ := entry
      by_cases same : name = path.text
      · simp [same, inductionHypothesis]
      · have apart : (path.text == name) = false := by simpa using fun equal => same equal.symm
        rw [List.filter_cons, if_pos (by simpa using same), List.lookup_cons, apart]
        exact inductionHypothesis

end Ledger

end SourceHarvest
