/-
# Where settings come from

Settings are put together from sources, one after the other, starting from the defaults.
A settings file that exists replaces everything before it; the environment and the
command line change single settings. What comes out is checked, and settings that cannot
be used are refused as a whole.

## Main definitions

* `Settings.Source` — the kinds of sources.
* `Settings.override` — changing single settings.
* `Settings.load` — all sources in order.
* `Settings.Holder` — settings that are held while others are tried.
-/

import CommitHistory.Files.Directory
import CommitHistory.Settings.Document
import CommitHistory.Settings.Dotenv

namespace CommitHistory.Settings

open Files Text

/-- A source of settings. -/
inductive Source where
  | standard
  /-- A file that sets variables of the environment, by default the nearest one of its name.
  Whatever goes wrong with it is passed over. -/
  | environmentFile (path : Option String)
  /-- A settings file. It is passed over if it does not exist. -/
  | file (path : String)
  | environment
  | overrides (values : List (String × String))
deriving DecidableEq, Repr

/-- The value that comes last under a name. -/
def lastValue? (values : List (String × String)) (name : String) : Option String :=
  values.reverse.lookup name

/-- Goes on with settings, changed by a value if there is one. -/
def changeBy (values : List (String × String)) (name : String)
    (change : String → Settings → Except Fault Settings) (settings : Settings) :
    Except Fault Settings :=
  match lastValue? values name with
  | none => .ok settings
  | some value => change value settings

/-- Sets the page size. -/
def setPageSize (value : String) (settings : Settings) : Except Fault Settings :=
  match Numeral.count? value.toList with
  | some pageSize => .ok { settings with history := { settings.history with pageSize } }
  | none => .error (.configuration ("无效的分页大小: " ++ value))

/-- Sets the scope. -/
def setScope (value : String) (settings : Settings) : Except Fault Settings :=
  (Scope.parse value).map fun scope =>
    { settings with history := { settings.history with scope } }

/-- Sets the git program. -/
def setGitProgram (gitProgram : String) (settings : Settings) : Except Fault Settings :=
  .ok { settings with history := { settings.history with gitProgram } }

/-- Sets the log level. -/
def setLevel (level : String) (settings : Settings) : Except Fault Settings :=
  .ok { settings with log := { settings.log with level } }

/-- Sets the form of log lines. -/
def setStyle (value : String) (settings : Settings) : Except Fault Settings :=
  (LogStyle.parse value).map fun style => { settings with log := { settings.log with style } }

/-- Sets the log file. -/
def setFile (value : String) (settings : Settings) : Except Fault Settings :=
  .ok { settings with log := { settings.log with file := some value } }

/-- Changes the settings that are named, in a fixed order. Other names are passed over. -/
def override (values : List (String × String)) (settings : Settings) : Except Fault Settings := do
  -- Of two values that cannot be used the first in this order is reported.
  let settings ← changeBy values "page_size" setPageSize settings
  let settings ← changeBy values "filter" setScope settings
  let settings ← changeBy values "git_binary" setGitProgram settings
  let settings ← changeBy values "log_level" setLevel settings
  let settings ← changeBy values "log_format" setStyle settings
  changeBy values "log_file" setFile settings

/-- What the names of variables that hold settings begin with. -/
def variableStart : String := "SCM_HISTORY_"

/-- The settings in an environment, under their names in small letters. -/
def environmentValues (environment : Environment) : List (String × String) :=
  environment.filterMap fun entry =>
    (dropPrefix? variableStart.toList entry.1.toList).map fun name =>
      (toLowerAscii (String.ofList name), entry.2)

/-- The fault of a file that cannot be read. -/
def readFault (path reason : String) : Fault := .files ("无法读取配置文件: " ++ reason) (some path)

/-- The text of a settings file. -/
def fileText (files : Directory) (path : String) : Except Fault (List Char) :=
  match files.read path with
  | .error refusal => .error (readFault path refusal.message)
  | .ok bytes =>
    match Utf8.decode? bytes with
    | some text => .ok text
    | none => .error (readFault path "stream did not contain valid UTF-8")

/-- The settings in a settings file. The file is read before its name is judged. -/
def fromFile (files : Directory) (path : String) : Except Fault Settings := do
  let text ← fileText files path
  let format ← Format.ofPath path
  parse format text

/-- The name that environment files have. -/
def environmentFileName : String := ".env"

/-- The bytes of an environment file. One without a path is looked for by its name, in the working
directory and then upwards. -/
def environmentFile? (files : Directory) : Option String → Option (List UInt8)
  | some path => (files.read path).toOption
  | none => files.nearest? environmentFileName.toList

/-- The variables after an environment file, if it can be read. -/
def readEnvironmentFile (files : Directory) (path : Option String) (environment : Environment) :
    Environment :=
  match environmentFile? files path with
  | some bytes => Dotenv.apply environment bytes
  | none => environment

/-- Adds one source to settings. -/
def addSource (files : Directory) (environment : Environment) (settings : Settings) :
    Source → Environment × Except Fault Settings
  | .standard => (environment, .ok settings)
  | .environmentFile path => (readEnvironmentFile files path environment, .ok settings)
  | .file path =>
    (environment, if files.exists? path then fromFile files path else .ok settings)
  | .environment => (environment, settings.override (environmentValues environment))
  | .overrides values => (environment, settings.override values)

/-- Adds sources to settings in order, up to the first fault. -/
def addSources (files : Directory) :
    Environment → Settings → List Source → Environment × Except Fault Settings
  | environment, settings, [] => (environment, .ok settings)
  | environment, settings, source :: rest =>
    match addSource files environment settings source with
    | (environment, .ok settings) => addSources files environment settings rest
    | (environment, .error fault) => (environment, .error fault)

/-- The settings from all sources in order, if they can be used, and the environment then. -/
def load (files : Directory) (environment : Environment) (sources : List Source) :
    Environment × Except Fault Settings :=
  match addSources files environment standard sources with
  | (environment, .ok settings) => (environment, settings.check.map fun _ => settings)
  | (environment, .error fault) => (environment, .error fault)

/-- The settings in use, and the sources that others are loaded from. -/
structure Holder where
  settings : Settings
  sources : List Source
deriving DecidableEq, Repr

namespace Holder

/-- The defaults, before any source is named. -/
def start : Holder := { settings := standard, sources := [.standard] }

/-- Names one more source. -/
def add (holder : Holder) (source : Source) : Holder :=
  { holder with sources := holder.sources ++ [source] }

/-- Loads settings. Those in use are replaced only by settings that can be used. -/
def load (holder : Holder) (files : Directory) (environment : Environment) :
    Holder × Environment × Except Fault Settings :=
  match Settings.load files environment holder.sources with
  | (environment, .ok settings) => ({ holder with settings }, environment, .ok settings)
  | (environment, .error fault) => (holder, environment, .error fault)

end Holder

/-- The fault of a file that cannot be written. -/
def writeFault (path reason : String) : Fault := .files ("无法写入配置文件: " ++ reason) (some path)

/-- Writes settings to a file in the form that goes with its name. -/
def save (settings : Settings) (files : Directory) (path : String) :
    Except Fault (Directory × List Char) := do
  let format ← Format.ofPath path
  let text ← settings.render format
  match files.write path (Utf8.encode text) with
  | .ok files => .ok (files, text)
  | .error refusal => .error (writeFault path refusal.message)

end CommitHistory.Settings
