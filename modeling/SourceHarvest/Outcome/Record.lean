import SourceHarvest.Failure.Status
import SourceHarvest.Json.Decode
import SourceHarvest.Json.Writer

/-!
# Outcome records

Every file of a run leaves one record.  In a log a record is one line of JSON; what a
record does not have is left out of its line.
-/

namespace SourceHarvest

open Json

/-- What is recorded about one file.  Times are in milliseconds. -/
structure OutcomeRecord where
  timestamp : Nat
  sessionId : String
  path : String
  status : Status
  chunkCount : Option Nat
  error : Option String
  duration : Nat
deriving DecidableEq, Repr

namespace OutcomeRecord

/-- The record as a JSON value. -/
def toJson (record : OutcomeRecord) : Value :=
  let chunkCount := record.chunkCount.toList.map fun count => ("chunk_count", Value.ofNat count)
  let error := record.error.toList.map fun words => ("error", Value.text words)
  .object
    ([ ("timestamp", .ofNat record.timestamp),
       ("session_id", .text record.sessionId),
       ("path", .text record.path),
       ("status", .text record.status.name) ] ++ chunkCount ++ error ++
     [("duration_ms", .ofNat record.duration)])

/-- The record as a line, with the newline that ends it. -/
def line (record : OutcomeRecord) : String :=
  record.toJson.compact ++ "\n"

/-- Read a record from a document. -/
def ofDocument? (document : Document) : Option OutcomeRecord := do
  let names := ["timestamp", "session_id", "path", "status", "chunk_count", "error", "duration_ms"]
  match ← document.fields? names with
  | [timestamp, sessionId, path, status, chunkCount, error, duration] =>
    pure
      { timestamp := ← (← timestamp).natural? greatestWord
        sessionId := ← (← sessionId).text?
        path := ← (← path).text?
        status := ← Status.ofName? (← (← status).text?)
        chunkCount := ← Document.optional? (Document.natural? greatestWord) chunkCount
        error := ← Document.optional? Document.text? error
        duration := ← (← duration).natural? greatestWord }
  | _ => none

end OutcomeRecord

end SourceHarvest
