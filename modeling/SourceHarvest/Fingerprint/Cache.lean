import SourceHarvest.Failure.Basic
import SourceHarvest.FileTree.Operations
import SourceHarvest.Fingerprint.Ledger
import SourceHarvest.Json.Decode
import SourceHarvest.Json.Writer

/-!
# The fingerprint cache

Between runs the ledger lies in a file, as a JSON document with a version.  A document
that is ill formed or of another version counts as an empty ledger.  The file is
replaced in one step: the document goes to a temporary file, which then takes the
place of the cache.
-/

namespace SourceHarvest

open Json

namespace Fingerprint

/-- The fingerprint as a JSON value. -/
def toJson (fingerprint : Fingerprint) : Value :=
  .object
    [ ("hash", .text fingerprint.hash),
      ("lastModified", .ofNat fingerprint.lastModified),
      ("chunkCount", .ofNat fingerprint.chunkCount) ]

/-- Read a fingerprint from a document. -/
def ofDocument? (document : Document) : Option Fingerprint := do
  match ← document.fields? ["hash", "lastModified", "chunkCount"] with
  | [hash, lastModified, chunkCount] =>
    pure
      { hash := ← (← hash).text?
        lastModified := ← (← lastModified).natural? greatestWord
        chunkCount := ← (← chunkCount).natural? greatestWord }
  | _ => none

end Fingerprint

namespace Ledger

/-- The version of cache documents. -/
def version : Nat := 1

/-- The greatest number that is a version at all. -/
def greatestVersion : Nat := 0xFFFFFFFF

/-- The ledger as a JSON value. -/
def toJson (ledger : Ledger) : Value :=
  .object
    [ ("version", .ofNat version),
      ("files", .object (ledger.entries.map fun entry => (entry.1, entry.2.toJson))) ]

/-- The text of a cache. -/
def encode (ledger : Ledger) : String :=
  ledger.toJson.spread

/-- Read a cache of any version from a document: its version and its ledger. -/
def ofDocument? (document : Document) : Option (Nat × Ledger) := do
  match ← document.fields? ["version", "files"] with
  | [found, files] =>
    let number ← (← found).natural? greatestVersion
    let entries ← (← files).mapOf? Fingerprint.ofDocument?
    pure (number, ⟨entries⟩)
  | _ => none

/-- The ledger of a cache text; what cannot be used counts as empty. -/
def decode (text : String) : Ledger :=
  match (Document.ofText? text).bind ofDocument? with
  | some (number, ledger) => if number = version then ledger else empty
  | none => empty

/-- The ledger in the cache at a path; a cache that is not there is empty. -/
def load (tree : FileTree) (cachePath : Path) : Except Failure Ledger :=
  if tree.exists cachePath then do
    let text ← Failure.during "Failed to read fingerprint cache"
      (Failure.ofFileResult (tree.readText cachePath))
    pure (decode text)
  else pure empty

/-- The temporary file of a cache. -/
def temporaryPath (cachePath : Path) : Path :=
  cachePath.withExtension "json.tmp"

/-- Write the ledger to the cache at a path.  Also give the tree that is left behind,
whether or not that succeeds. -/
def save (ledger : Ledger) (cachePath : Path) (tree : FileTree) :
    Except Failure Unit × FileTree :=
  let (made, withDirectories) := match cachePath.parent? with
    | some directory => tree.makeDirectories directory
    | none => (.ok (), tree)
  match made with
  | .error error => (.error (Failure.ofFile error), withDirectories)
  | .ok () =>
      match withDirectories.write (temporaryPath cachePath) ledger.encode.toUTF8 with
      | .error error =>
          (.error ((Failure.ofFile error).context "Failed to write fingerprint cache"),
            withDirectories)
      | .ok written =>
          match written.rename (temporaryPath cachePath) cachePath with
          | .error error =>
              (.error ((Failure.ofFile error).context "Failed to replace fingerprint cache"), written)
          | .ok replaced => (.ok (), replaced)

end Ledger

end SourceHarvest
