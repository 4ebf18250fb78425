/-
# The program

The program reads its options and its settings, opens its log, finds the repository and
shows its history, the changes of one commit, or the common ancestor. The first thing
that goes wrong ends it.

## Main definitions

* `Program.loadSettings` — the settings of the program.
* `Program.openLog` — setting up the log.
* `Program.report` — what is shown of a repository, as a dialogue with git.
* `Program.run` — the whole program.
-/

import CommitHistory.CommandLine.Options
import CommitHistory.Git.Launch
import CommitHistory.Git.Source
import CommitHistory.Report
import CommitHistory.Report.Json
import CommitHistory.Report.Text
import CommitHistory.Session.Solo
import CommitHistory.Settings.LogFilter
import CommitHistory.Settings.Source

namespace CommitHistory.CommandLine

open Text

/-- What the program finds where it is started. The files are those of the git installation. -/
structure Surroundings where
  environment : Settings.Environment
  git : Git.Installation
  /-- Whether somebody reads the output on a terminal. -/
  isTerminal : Bool

/-- Why the program fails. -/
inductive Failure where
  | fault (fault : Fault)
  | notARepository (path : String) (cause : Fault)
  | notLoaded (commit : String)
deriving DecidableEq, Repr

namespace Failure

/-- A text whose lines after the first are moved to the right by four blanks. -/
def indented (text : String) : List Char :=
  text.toList.flatMap fun c => if c = '\n' then "\n    ".toList else [c]

/-- The wording of a failure, with its cause below it. -/
def message : Failure → List Char
  | .fault cause => cause.message.toList
  | .notARepository path cause =>
    (path ++ " 不是 git 仓库\n\nCaused by:\n    ").toList ++ indented cause.message
  | .notLoaded commit => ("提交 " ++ commit ++ " 不在已加载的历史中，可以增大 --pages").toList

end Failure

/-- How the program ends: its exit code, what it writes, the files that are there then, and the
arguments of the runs of git that it started. -/
structure Ending where
  code : Nat
  output : List Char
  errors : List Char
  files : Files.Directory
  runs : List (List String)

namespace Program

/-- The sources of the settings, the weakest first. -/
def sources (options : Options) : List Settings.Source :=
  [.environmentFile none] ++ (options.settingsFile.map Settings.Source.file).toList ++
    [.environment, .overrides options.overrides]

/-- The settings of the program, and the environment when they are loaded. -/
def loadSettings (files : Files.Directory) (environment : Settings.Environment)
    (options : Options) : Settings.Environment × Except Fault Settings :=
  (((sources options).foldl Settings.Holder.add .start).load files environment).2

/-- The variable with directives for the log. -/
def directivesVariable : String := "RUST_LOG"

/-- The fault of a log file that cannot be opened. -/
def logFault (path reason : String) : Fault :=
  .files ("无法打开日志文件: " ++ reason) (some path)

/-- The files once a log file is open. It is made if it is not there. -/
def openLogFile (files : Files.Directory) (path : String) : Except Fault Files.Directory :=
  -- What is in a file already stays, because log lines are appended.
  match files.look path with
  | .ok (.file _) => .ok files
  | _ =>
    match files.write path [] with
    | .ok files => .ok files
    | .error refusal => .error (logFault path refusal.message)

/-- The filter of the log, and the files once the log is open. -/
def openLog (files : Files.Directory) (environment : Settings.Environment)
    (settings : LogSettings) : Except Fault (LogFilter × Files.Directory) := do
  let filter ← settings.filter (environment.get? directivesVariable)
  match settings.file with
  | none => .ok (filter, files)
  | some path => (openLogFile files path).map fun files => (filter, files)

/-- The form of the report and its style. Colours are for people who read at a terminal. -/
structure Layout where
  format : Report.Format
  style : Report.Style

/-- The text of a tree. -/
def Layout.treeText (layout : Layout) (lines : List TreeLine) : List Char :=
  match layout.format with
  | .text => layout.style.treeText lines
  | .json => Report.treeJson .pretty lines

/-- The text of a list of changes. -/
def Layout.changesText (layout : Layout) (changes : List Change) : List Char :=
  match layout.format with
  | .text => Report.changesText changes
  | .json => Report.changesJson .pretty changes

/-- The layout that options ask for. -/
def layout (options : Options) (isTerminal : Bool) : Except Fault Layout :=
  (Report.Format.parse options.format).map fun format =>
    { format, style := if isTerminal && !options.noColor then .colored else .plain }

/-- The repository at a root, which has the only source. -/
def repositoryAt (root : String) : Session.Repository :=
  { id := ⟨root⟩, root, source := some 0 }

/-- The session with one repository, which is worked in. -/
def openSession (settings : HistorySettings) (repository : Session.Repository) : Session :=
  let world := Session.World.start settings.pageSize settings.scope
  let tracking := (Session.Edit.add repository).apply world
  { world := (Session.Edit.activate (some repository.id)).apply tracking, activities := [] }

/-- The first line of a commit whose name begins with a text. -/
def lineOf? (lines : List TreeLine) (start : String) : Option TreeLine :=
  lines.find? fun line =>
    match line with
    | .row _ shown => start.toList.isPrefixOf shown.commit.id.toList
    | .more _ => false

variable {m : Type → Type} [Monad m]

/-- The text of a common ancestor. -/
def ancestorText : Option String → List Char
  | some ancestor => (ancestor ++ "\n").toList
  | none => "没有可用的共同祖先\n".toList

/-- The report on the common ancestor. -/
def ancestorReport (answer : Session.Question → m Session.Reply)
    (repository : Session.Repository) (session : Session) : m (Except Failure (List Char)) := do
  match (← session.perform answer (.ancestor repository)).2 with
  | some (.ancestor (.error fault)) => pure (.error (.fault fault))
  | some (.ancestor (.ok found)) => pure (.ok (ancestorText found))
  | _ => pure (.ok [])

/-- The report on the changes of a commit that is shown. -/
def changesReport (answer : Session.Question → m Session.Reply) (layout : Layout)
    (commit : String) (session : Session) : m (Except Failure (List Char)) := do
  match lineOf? session.world.display.lines commit with
  | none => pure (.error (.notLoaded commit))
  | some line =>
    match (← session.perform answer (.openLine line)).2 with
    | some (.changes (.error fault)) => pure (.error (.fault fault))
    | some (.changes (.ok changes)) => pure (.ok (layout.changesText changes))
    | _ => pure (.ok [])

/-- The report that options ask for. -/
def report (answer : Session.Question → m Session.Reply) (options : Options) (layout : Layout)
    (settings : HistorySettings) (root : String) : m (Except Failure (List Char)) := do
  let repository := repositoryAt root
  let session := openSession settings repository
  if options.mergeBase then ancestorReport answer repository session
  else
    match ← session.showPages answer options.pages with
    | .error fault => pure (.error (.fault fault))
    | .ok shown =>
      match options.changes with
      | some commit => changesReport answer layout commit shown
      | none => pure (.ok (layout.treeText shown.world.display.lines))

/-- What the program is to do once its options, settings and log are in order. -/
structure Plan where
  options : Options
  layout : Layout
  settings : HistorySettings

/-- Gets everything in order. The first result is the files then; the log file is made even if
the form of the report turns out not to exist. -/
def prepare (surroundings : Surroundings) (options : Options) :
    Files.Directory × Except Fault Plan :=
  let files := surroundings.git.files
  -- A program finds its variables ordered by their names.
  match loadSettings files surroundings.environment.ordered options with
  | (_, .error fault) => (files, .error fault)
  | (environment, .ok settings) =>
    match openLog files environment settings.log with
    | .error fault => (files, .error fault)
    | .ok (_, files) =>
      (files, (layout options surroundings.isTerminal).map fun layout =>
        { options, layout, settings := settings.history })

/-- Carries out a plan with git. The repository is found first, and everything else is asked at
its root. -/
def carryOut (git : Git.Installation) (plan : Plan) :
    Except Failure (List Char) × List (List String) :=
  let program := plan.settings.gitProgram
  let start := plan.options.repository
  let found := (Git.discover program).run.run (git.run program start)
  let searched := git.started program start found.2
  match found.1 with
  | .error cause => (.error (.notARepository start cause), searched)
  | .ok root =>
    -- There is one source only, so the number of the source that is asked does not matter.
    let answer := fun question => Git.reply program (Session.Question.query question)
    let told := (report answer plan.options plan.layout plan.settings root).run
      (git.run program root)
    (told.1, searched ++ git.started program root told.2)

/-- The end of a program that could or could not do what it was asked for. -/
def ending (files : Files.Directory) (runs : List (List String)) :
    Except Failure (List Char) → Ending
  | .ok output => { code := 0, output, errors := [], files, runs }
  | .error failure =>
    { code := 1, output := [], errors := "Error: ".toList ++ failure.message ++ ['\n'],
      files, runs }

/-- The end of a program that was asked for its version or for help, or that was misused. -/
def stopped (files : Files.Directory) : Stop → Ending
  | .help full => { code := 0, output := (helpText full).toList, errors := [], files, runs := [] }
  | .version => { code := 0, output := versionText.toList, errors := [], files, runs := [] }
  | .misuse misuse =>
    { code := 2, output := []
      errors := (misuse.message ++ "\n\n" ++ usageText ++
        "\nFor more information, try '--help'.\n").toList
      files, runs := [] }

/-- The whole program, called with words. -/
def run (surroundings : Surroundings) (words : List String) : Ending :=
  match Options.read words with
  | .error stop => stopped surroundings.git.files stop
  | .ok options =>
    match prepare surroundings options with
    | (files, .error fault) => ending files [] (.error (.fault fault))
    | (files, .ok plan) =>
      let (result, runs) := carryOut { surroundings.git with files } plan
      ending files runs result

end Program

end CommitHistory.CommandLine
