/-
# The executable

The outer layer of the program: it looks at the files and variables that the program
may need, runs the program, and writes what it ends with. The runs of git come from a
transcript, whose file is named by a variable. Nothing is decided here.
-/

import CommitHistory.CommandLine.Program
import CommitHistory.Git.Transcript

namespace CommitHistory.Executable

open CommandLine

/-- The variable that names the file with the transcript of git. -/
def transcriptVariable : String := "SCM_HISTORY_TRANSCRIPT"

/-- The variables that the program may need. -/
def variableNames : List String :=
  ["PAGE_SIZE", "FILTER", "GIT_BINARY", "LOG_LEVEL", "LOG_FORMAT", "LOG_FILE"].map
    (Settings.variableStart ++ ·) ++ [Program.directivesVariable, "HOME", "USER"]

/-- The variables that are set. -/
def environment : IO Settings.Environment :=
  variableNames.filterMapM fun name => do
    return (← IO.getEnv name).map (name, ·)

/-- What a path leads to. Whatever is there and cannot be read counts as a directory. -/
def entry? (path : String) : IO (Option (List (List Char) × Files.Entry)) := do
  let names := (Files.Place.ofPath path).route
  try
    let bytes ← IO.FS.readBinFile path
    return some (names, .file bytes.toList)
  catch
    | .noFileOrDirectory .. => return none
    | _ => return some (names, .directory)

/-- A path with the paths of all directories on its way. -/
def onTheWay (path : String) : List String :=
  let start := if Files.isAbsolute path then "/" else ""
  let names := (Files.parts path).map String.ofList
  (List.range (names.length + 1)).map fun count =>
    start ++ String.intercalate "/" (names.take count)

/-- The files that paths lead to, with the directories on their way. -/
def files (paths : List String) : IO Files.Directory := do
  let wanted := (paths.flatMap onTheWay).filter fun path => !path.isEmpty
  return ⟨← wanted.filterMapM entry?⟩

/-- The paths of the environment files in the working directory and above it. -/
def environmentFiles : IO (List String) := do
  let steps := (Files.parts (← IO.currentDir).toString).length
  return (List.range (steps + 1)).map fun steps =>
    String.join (List.replicate steps "../") ++ Settings.environmentFileName

/-- The runs in the transcript, if there is one. -/
def recordings : IO (List Git.Recording) := do
  match ← IO.getEnv transcriptVariable with
  | none => return []
  | some path =>
    let text ← IO.FS.readFile path
    return (Git.Recording.transcript? text.toList).getD []

/-- What the program finds when it is called with options. -/
def surroundings (options : Options) : IO Surroundings := do
  let environment ← environment
  let first := (← environmentFiles) ++ options.settingsFile.toList
  let before ← files first
  let loaded := (Program.loadSettings before environment options).2
  let (program, log) := match loaded with
    | .ok settings => (settings.history.gitProgram, settings.log.file.toList)
    | .error _ => ("", [])
  let paths := options.repository :: first ++ log
  let git : Git.Installation :=
    { program, recordings := ← recordings, files := ← files paths }
  -- Git tells the root of the repository, which is worked in from then on.
  let root := ((Git.discover program).run.run (git.run program options.repository)).1
  return {
    environment
    git := { git with files := ← files (root.toOption.toList ++ paths) }
    isTerminal := ← (← IO.getStdout).isTty }

/-- Writes the files that the program made. -/
def saveFiles (before after : Files.Directory) : IO Unit :=
  (after.entries.take (after.entries.length - before.entries.length)).forM fun entry =>
    match entry.2 with
    | .file bytes =>
      IO.FS.writeBinFile (String.intercalate "/" (entry.1.map String.ofList)) ⟨bytes.toArray⟩
    | .directory => pure ()

/-- Runs the program with words and hands out its exit code. -/
def execute (words : List String) : IO UInt32 := do
  let options := (Options.read words).toOption.getD Options.standard
  let surroundings ← surroundings options
  let ending := Program.run surroundings words
  saveFiles surroundings.git.files ending.files
  (← IO.getStdout).putStr (String.ofList ending.output)
  (← IO.getStderr).putStr (String.ofList ending.errors)
  return ending.code.toUInt32

end CommitHistory.Executable

/-- The program itself. -/
def main (words : List String) : IO UInt32 := CommitHistory.Executable.execute words
