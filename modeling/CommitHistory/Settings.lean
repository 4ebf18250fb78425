/-
# Settings

What a user can set: how a history is fetched and how much is logged. Every setting
has a default.

## Main definitions

* `Settings`, `Settings.standard` — the settings and their defaults.
* `Settings.Valid`, `Settings.check` — which settings can be used.
-/

import CommitHistory.Fault
import CommitHistory.Scope
import CommitHistory.Settings.LogLevel
import CommitHistory.Text.Blank

namespace CommitHistory

/-- The form of a log line. -/
inductive LogStyle where
  | pretty
  | compact
  | json
deriving DecidableEq, Repr

namespace LogStyle

/-- The name of a form. -/
def name : LogStyle → String
  | .pretty => "pretty"
  | .compact => "compact"
  | .json => "json"

/-- The form that a name stands for. -/
def ofName? : String → Option LogStyle
  | "pretty" => some .pretty
  | "compact" => some .compact
  | "json" => some .json
  | _ => none

/-- The form that a text names in large or small letters. -/
def parse (text : String) : Except Fault LogStyle :=
  let lower := Text.toLowerAscii text
  match ofName? lower with
  | some style => .ok style
  | none => .error (.configuration ("不支持的日志格式: " ++ lower))

end LogStyle

/-- How a history is fetched. -/
structure HistorySettings where
  /-- How many commits make a page. -/
  pageSize : Nat
  scope : Scope
  /-- The program to run for git. -/
  gitProgram : String
  /-- How many lists of changes are remembered. -/
  cacheCapacity : Nat
deriving DecidableEq, Repr

/-- What is logged and where. -/
structure LogSettings where
  /-- The level as it was written; it is read when the settings are checked. -/
  level : String
  style : LogStyle
  /-- The file to append to, instead of the standard error output. -/
  file : Option String
  /-- Whether a log line names the place in the program. -/
  showsPlace : Bool
  /-- Directives that replace the level. -/
  directives : Option String
deriving DecidableEq, Repr

/-- All settings. -/
structure Settings where
  history : HistorySettings
  log : LogSettings
deriving DecidableEq, Repr

/-- The defaults. -/
def HistorySettings.standard : HistorySettings :=
  { pageSize := 50, scope := .lineage, gitProgram := "git", cacheCapacity := 100 }

/-- The defaults. -/
def LogSettings.standard : LogSettings :=
  { level := "warn", style := .compact, file := none, showsPlace := false, directives := none }

/-- The level, or the fault that it names none. -/
def LogSettings.levelOrFault (settings : LogSettings) : Except Fault LogLevel :=
  match LogLevel.ofText? settings.level.toList with
  | some level => .ok level
  | none => .error (.configuration ("无效的日志级别: " ++ settings.level))

namespace Settings

/-- The defaults. -/
def standard : Settings := { history := .standard, log := .standard }

/-- Settings that can be used: something to fetch in a page, a program to run, room for one
list of changes, and a level that exists. -/
structure Valid (settings : Settings) : Prop where
  pageSize_pos : 0 < settings.history.pageSize
  gitProgram_shown : Text.trim settings.history.gitProgram.toList ≠ []
  cacheCapacity_pos : 0 < settings.history.cacheCapacity
  level_known : (LogLevel.ofText? settings.log.level.toList).isSome

/-- Refuses settings that cannot be used and names the first reason. -/
def check (settings : Settings) : Except Fault Unit :=
  if settings.history.pageSize = 0 then .error (.configuration "分页大小不能为 0")
  else if Text.trim settings.history.gitProgram.toList = [] then
    .error (.configuration "git 可执行文件不能为空")
  else if settings.history.cacheCapacity = 0 then
    .error (.configuration "变更缓存容量不能为 0")
  else settings.log.levelOrFault.map fun _ => ()

end Settings

end CommitHistory
