import SourceHarvest.CommandLine
import SourceHarvest.Http.Script
import Std.Time

/-!
# The program

The files that a run can look at are taken into a file tree, the run works on that tree,
and what it changed there is written back.  The program has no grammars and no network
of its own: whoever has them calls `CommandLine.run` with them.
-/

namespace SourceHarvest.Program

/-- Milliseconds since 1970 of a time of the file system. -/
def milliseconds (time : IO.FS.SystemTime) : Int :=
  time.sec * 1000 + time.nsec.toNat / 1000000

/-- Take the file at a location into a tree.  A file that cannot be read is left out. -/
def addFile (tree : FileTree) (location : Location) : IO FileTree := do
  let path := (← IO.currentDir) / (Path.ofNames location).text
  try
    let found ← path.metadata
    let content ← IO.FS.readBinFile path
    pure (tree.put location (.file content (milliseconds found.modified)))
  catch _ => pure tree

/-- Take the directories around a location into a tree. -/
def addSurroundings (tree : FileTree) (location : Location) : FileTree :=
  (List.range location.length).foldl (fun tree length =>
    let around := location.take length
    if around = [] then tree else tree.put around (.directory tree.clock)) tree

/-- Take a directory and all below it into a tree; links are left out. -/
partial def addDirectory (tree : FileTree) (location : Location) : IO FileTree := do
  let folder := (← IO.currentDir) / (Path.ofNames location).text
  let mut grown := if location = [] then tree else tree.put location (.directory tree.clock)
  let entries ← try folder.readDir catch _ => pure #[]
  for entry in entries do
    let there := location ++ [entry.fileName]
    try
      match (← entry.path.symlinkMetadata).type with
      | .dir => grown ← addDirectory grown there
      | .file => grown ← addFile grown there
      | _ => pure ()
    catch _ => pure ()
  pure grown

/-- Take what a path leads to into a tree, and a link to it where the path goes over links. -/
def addPath (tree : FileTree) (path : Path) : IO FileTree := do
  let here ← IO.currentDir
  let absolute := Path.join ⟨here.toString⟩ path
  let place := here / path.text
  if ← place.pathExists then
    let location := Path.names ⟨(← IO.FS.realPath place).toString⟩
    let around := addSurroundings tree location
    let grown ←
      if ← place.isDir then addDirectory around location else addFile around location
    if absolute.names = location ∨ absolute.names.contains ".." then pure grown
    else
      let linked := addSurroundings grown absolute.names
      pure (linked.put absolute.names (.link (Path.ofNames location).text))
  else
    match absolute.parent? with
    | some directory =>
        if ← (here / directory.text).pathExists then
          pure (addSurroundings tree absolute.names)
        else pure tree
    | none => pure tree

/-- Take what a path leads to into a tree, but nothing of what lies in a directory. -/
def addMark (tree : FileTree) (path : Path) : IO FileTree := do
  let here ← IO.currentDir
  if ← (here / path.text).isDir then
    let location := (Path.join ⟨here.toString⟩ path).names
    pure ((addSurroundings tree location).put location (.directory tree.clock))
  else addPath tree path

/-- Take several paths into a tree. -/
def addPaths (tree : FileTree) (paths : List Path) : IO FileTree :=
  paths.foldlM addPath tree

/-- The marks of repositories in a directory and in all those around it. -/
def repositoryMarks (directory : Path) : List Path :=
  directory.ancestors.flatMap fun around =>
    [".git", ".jj"].map fun name => around.join ⟨name⟩

/-- The files with rules in a directory and in all those around it. -/
def rulePaths (directory : Path) : List Path :=
  directory.ancestors.flatMap fun around =>
    [".ignore", ".gitignore", ".git/info/exclude"].map fun name => around.join ⟨name⟩

/-- The variables that are listed with a zero character behind each. -/
def listedVariables? (content : ByteArray) : Option Variables := do
  let text ← String.fromUTF8? content
  pure <| (Text.splitAtMark '\x00' text.toList).filterMap fun entry =>
    match entry.dropWhile (· != '=') with
    | '=' :: value => some (String.ofList (entry.takeWhile (· != '=')), String.ofList value)
    | _ => none

/-- The variables of the process: all of them where the system lists them, and else those that
the program knows. -/
def environment : IO Variables := do
  let listed ← try pure (listedVariables? (← IO.FS.readBinFile "/proc/self/environ"))
    catch _ => pure none
  match listed with
  | some all => pure all
  | none =>
      (Ignore.PersonalRules.placeVariables ++ CommandLine.settingVariables).filterMapM fun name =>
        do pure ((← IO.getEnv name).map fun value => (name, value))

/-- Write what a run changed. -/
def writeBack (earlier later : FileTree) : IO Unit := do
  for location in FileTree.newDirectories earlier later do
    IO.FS.createDirAll (Path.ofNames location).text
  for (location, content) in FileTree.newContents earlier later do
    IO.FS.writeBinFile (Path.ofNames location).text content

/-- A name for a run that no other run has. -/
def sessionId : IO String := do
  pure (Digest.hexText (← IO.getRandomBytes 16).toList)

/-- A grammar that knows no language. -/
def noGrammar : Grammar := fun _ _ => .error (Failure.ofMessage "Failed to parse code")

/-- The files that decide about the settings, and then those that the settings name. -/
def takeFiles (invocation : CommandLine.Invocation) (now : Int) : IO FileTree := do
  let here : Path := ⟨(← IO.currentDir).toString⟩
  let environmentFiles := here.join ⟨".env"⟩ ::
    ((EnvironmentFile.settingsDirectory? invocation.environment).map fun directory =>
      directory.join ⟨"code-context-ingest/.env"⟩).toList
  let environmentTree ← addPaths ⟨[], here.names, now⟩ environmentFiles
  let assigned :=
    (EnvironmentFile.loadAll environmentTree invocation.environment).toOption.getD []
  let tree ← addPaths environmentTree
    (Ignore.PersonalRules.settingsFiles
      (Ignore.PersonalRules.Places.ofVariables (assigned.lookup ·)))
  match CommandLine.configuration invocation tree with
  | .error _ => pure tree
  | .ok configuration =>
      let root := here.join configuration.root
      let marked ← (repositoryMarks root).foldlM addMark tree
      addPaths marked
        (configuration.root :: configuration.cachePath :: configuration.logFile.toList ++
          configuration.ignoreFile.toList ++ rulePaths root)

/-- Run the program on its arguments. -/
def run (arguments : List String) : IO UInt32 := do
  let start ← IO.monoNanosNow
  let now := (← Std.Time.Timestamp.now).toMillisecondsSinceUnixEpoch.toInt
  let invocation : CommandLine.Invocation := ⟨arguments, ← environment⟩
  let tree ← takeFiles invocation now
  let session : Session := ⟨← sessionId, now.toNat, fun _ => [], none⟩
  let (result, world) :=
    (CommandLine.run invocation noGrammar Http.unreachable session).run ⟨tree, (), []⟩
  writeBack tree world.tree
  let elapsed := (← IO.monoNanosNow) - start
  let exit := CommandLine.exit result (CommandLine.elapsedText elapsed)
  IO.print exit.output
  match exit.error with
  | some words => IO.eprintln words
  | none => pure ()
  pure exit.code.toUInt32

end SourceHarvest.Program

/-- Index the source tree that the arguments and the environment name. -/
def main (arguments : List String) : IO UInt32 :=
  SourceHarvest.Program.run arguments
