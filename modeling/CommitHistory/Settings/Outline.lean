/-
# The outline of the settings

Every form of a settings file shows the same two sections with the same names in the
same order. The outline of settings is what is written; reading goes the other way by
asking a value for its fields, and a field that is missing keeps its default.

## Main definitions

* `Settings.outline` — sections, names and values.
* `Settings.Dialect`, `Settings.Dialect.read` — reading settings off the values of a
  form.
-/

import CommitHistory.Settings

namespace CommitHistory.Settings

/-- A value in a section. -/
inductive Scalar where
  | text (value : String)
  | count (value : Nat)
  | flag (value : Bool)
  | nothing
deriving DecidableEq, Repr

/-- A text, or nothing. -/
def Scalar.ofText? : Option String → Scalar
  | none => .nothing
  | some value => .text value

/-- The values in a section under their names. -/
abbrev Section : Type := List (String × Scalar)

/-- The names of the sections. -/
def sectionNames : List String := ["history", "logging"]

/-- The names in the section on the history. -/
def historyNames : List String := ["page_size", "filter", "git_binary", "changes_cache_size"]

/-- The names in the section on the log. -/
def logNames : List String := ["level", "format", "file", "include_file_location", "filter"]

/-- The sections of settings. -/
def outline (settings : Settings) : List (String × Section) :=
  [("history",
    [("page_size", .count settings.history.pageSize),
      ("filter", .text settings.history.scope.name),
      ("git_binary", .text settings.history.gitProgram),
      ("changes_cache_size", .count settings.history.cacheCapacity)]),
   ("logging",
    [("level", .text settings.log.level),
      ("format", .text settings.log.style.name),
      ("file", Scalar.ofText? settings.log.file),
      ("include_file_location", .flag settings.log.showsPlace),
      ("filter", Scalar.ofText? settings.log.directives)])]

/-- How the values of a form are taken apart. Each function is undefined on a value of the wrong
kind. -/
structure Dialect (ν : Type) where
  /-- The values under names: of a record by name, of a list by position. -/
  fields? : List String → ν → Option (List (Option ν))
  count? : ν → Option Nat
  text? : ν → Option String
  flag? : ν → Option Bool
  /-- The name of a variant. -/
  variant? : ν → Option String
  /-- A text, or none for a value that stands for nothing. -/
  optionalText? : ν → Option (Option String)

namespace Dialect

variable {ν : Type} (how : Dialect ν)

/-- What `read` makes of a field, or the default if the field is missing. -/
def field {α : Type} (read : ν → Option α) (default : α) : Option ν → Option α
  | none => some default
  | some value => read value

/-- The settings on the history that a value describes. -/
def history? (value : ν) : Option HistorySettings :=
  match how.fields? historyNames value with
  | some [pageSize, scope, gitProgram, cacheCapacity] => do
    let standard := HistorySettings.standard
    let pageSize ← field how.count? standard.pageSize pageSize
    let scope ← field (fun value => (how.variant? value).bind Scope.ofName?) standard.scope scope
    let gitProgram ← field how.text? standard.gitProgram gitProgram
    let cacheCapacity ← field how.count? standard.cacheCapacity cacheCapacity
    some { pageSize, scope, gitProgram, cacheCapacity }
  | _ => none

/-- The settings on the log that a value describes. -/
def log? (value : ν) : Option LogSettings :=
  match how.fields? logNames value with
  | some [level, style, file, showsPlace, directives] => do
    let standard := LogSettings.standard
    let level ← field how.text? standard.level level
    let style ← field (fun value => (how.variant? value).bind LogStyle.ofName?) standard.style style
    let file ← field how.optionalText? standard.file file
    let showsPlace ← field how.flag? standard.showsPlace showsPlace
    let directives ← field how.optionalText? standard.directives directives
    some { level, style, file, showsPlace, directives }
  | _ => none

/-- The settings that a value describes. -/
def read (value : ν) : Option Settings :=
  match how.fields? sectionNames value with
  | some [history, log] => do
    let history ← field how.history? .standard history
    let log ← field how.log? .standard log
    some { history, log }
  | _ => none

end Dialect

end CommitHistory.Settings
