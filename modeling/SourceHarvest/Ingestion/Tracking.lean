import SourceHarvest.Chunk.Identity
import SourceHarvest.Fingerprint.Ledger
import SourceHarvest.Ingestion.Job

/-!
# Tracking changes

A file counts as changed when it has no fingerprint, or when it was last written later
than its fingerprint says.  Its bytes are not compared.  The time of a new fingerprint
is asked for before the bytes, so a write in between makes the file look changed.
-/

namespace SourceHarvest

namespace Tracking

/-- The milliseconds since 1970 of the last change of a file, as a time of 64 bits. -/
def modifiedMillis (path : Path) : ExceptT Failure Job Nat := do
  match ← ExceptT.lift (Job.question (.modified path)) with
  | .error error => throw ((Failure.ofFile error).context "Failed to stat file")
  | .ok time =>
      if time < 0 then
        throw ((Failure.ofFile .beforeEpoch).context "Modification time before unix epoch")
      else pure (time.toNat % 0x10000000000000000)

/-- The file has no fingerprint, or was written after its fingerprint.  A file whose time
cannot be found counts as changed. -/
def hasChanged (ledger : Ledger) (path : Path) : Job Bool :=
  match ledger.get? path with
  | none => pure true
  | some fingerprint => do
      match ← (modifiedMillis path).run with
      | .ok current => pure (fingerprint.lastModified < current)
      | .error _ => pure true

/-- The bytes of a file. -/
def readBytes (path : Path) (purpose : String) : ExceptT Failure Job ByteArray := do
  match ← ExceptT.lift (Job.question (.read path)) with
  | .error error => throw ((Failure.ofFile error).context purpose)
  | .ok content => pure content

/-- The fingerprint of a file as it is now. -/
def fingerprint (path : Path) (chunkCount : Nat) : ExceptT Failure Job Fingerprint := do
  let lastModified ← modifiedMillis path
  let content ← readBytes path "Failed to read file for fingerprint"
  pure { hash := contentHash content.toList, lastModified, chunkCount }

end Tracking

end SourceHarvest
