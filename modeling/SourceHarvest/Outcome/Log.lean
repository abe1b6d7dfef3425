import SourceHarvest.FileTree.Operations
import SourceHarvest.Outcome.Record

/-!
# The outcome log

A log is a file to which records are added line by line.  Whatever was in the file
before stays in front of them.  A record that the file does not take is dropped.
-/

namespace SourceHarvest.OutcomeLog

/-- Open the log at a path: its directory and the file itself are made where they are
missing.  Also give the tree that is left behind, whether or not that succeeds. -/
def start (path : Path) (tree : FileTree) : Except Failure Unit × FileTree :=
  let (made, withDirectories) := match path.parent? with
    | some directory => tree.makeDirectories directory
    | none => (.ok (), tree)
  match made with
  | .error error => (.error (Failure.ofFile error), withDirectories)
  | .ok () =>
      match withDirectories.openToAppend path with
      | .error error =>
          (.error ((Failure.ofFile error).context s!"Failed to open ingestion log {path.text}"),
            withDirectories)
      | .ok opened => (.ok (), opened)

/-- Add a record to an open log. -/
def add (path : Path) (tree : FileTree) (record : OutcomeRecord) : FileTree :=
  match tree.append path record.line.toUTF8 with
  | .ok longer => longer
  | .error _ => tree

/-- Open a log and add records to it in order. -/
def write (path : Path) (records : List OutcomeRecord) (tree : FileTree) :
    Except Failure Unit × FileTree :=
  match start path tree with
  | (.ok (), opened) => (.ok (), records.foldl (add path) opened)
  | failed => failed

end SourceHarvest.OutcomeLog
