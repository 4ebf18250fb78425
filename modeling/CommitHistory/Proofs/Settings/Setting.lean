/-
# Single settings

Six settings can be changed one by one, by a text under the name of the setting. Changing them by
several texts changes each of them by its own text and leaves the others alone. A document may say
a value for each setting; what it does not say is left at the default.

## Main definitions

* `Setting`, `Setting.get`, `Setting.put` — the settings and their values.
* `Setting.ofText` — the value that a text stands for.
* `Settings.Dialect.said?` — what a document says about a setting.

## Main results

* `Settings.get_of_override` — texts change exactly the settings that they name.
* `Settings.get_of_read` — reading takes every setting from where it is said.
-/

import CommitHistory.Settings.Source

namespace CommitHistory

open Text

/-! ### Results without a fault -/

section Results

variable {ε α β : Type} {result : Except ε α} {b : β}

theorem exists_of_map_eq_ok {f : α → β} (mapped : result.map f = .ok b) :
    ∃ a, result = .ok a ∧ f a = b := by
  cases result with
  | error fault => cases mapped
  | ok a => exact ⟨a, rfl, Except.ok.inj mapped⟩

theorem exists_of_bind_eq_ok {f : α → Except ε β} (bound : (result >>= f) = .ok b) :
    ∃ a, result = .ok a ∧ f a = .ok b := by
  cases result with
  | error fault => cases bound
  | ok a => exact ⟨a, rfl, bound⟩

end Results

/-! ### Settings and their values -/

/-- The settings that can be changed one by one. -/
inductive Setting where
  | pageSize
  | scope
  | gitProgram
  | level
  | style
  | file
deriving DecidableEq, Repr

namespace Setting

/-- What the values of a setting are. -/
@[reducible]
def Value : Setting → Type
  | .pageSize => Nat
  | .scope => Scope
  | .gitProgram => String
  | .level => String
  | .style => LogStyle
  | .file => Option String

/-- The value of a setting. -/
def get : (setting : Setting) → Settings → setting.Value
  | .pageSize, settings => settings.history.pageSize
  | .scope, settings => settings.history.scope
  | .gitProgram, settings => settings.history.gitProgram
  | .level, settings => settings.log.level
  | .style, settings => settings.log.style
  | .file, settings => settings.log.file

/-- Settings with another value of one setting. -/
def put : (setting : Setting) → setting.Value → Settings → Settings
  | .pageSize, value, settings =>
    { settings with history := { settings.history with pageSize := value } }
  | .scope, value, settings => { settings with history := { settings.history with scope := value } }
  | .gitProgram, value, settings =>
    { settings with history := { settings.history with gitProgram := value } }
  | .level, value, settings => { settings with log := { settings.log with level := value } }
  | .style, value, settings => { settings with log := { settings.log with style := value } }
  | .file, value, settings => { settings with log := { settings.log with file := value } }

/-- The name under which a text changes a setting. -/
def name : Setting → String
  | .pageSize => "page_size"
  | .scope => "filter"
  | .gitProgram => "git_binary"
  | .level => "log_level"
  | .style => "log_format"
  | .file => "log_file"

/-- The value that a text stands for. -/
def ofText : (setting : Setting) → String → Except Fault setting.Value
  | .pageSize, text =>
    match Numeral.count? text.toList with
    | some count => .ok count
    | none => .error (.configuration ("无效的分页大小: " ++ text))
  | .scope, text => Scope.parse text
  | .gitProgram, text => .ok text
  | .level, text => .ok text
  | .style, text => LogStyle.parse text
  | .file, text => .ok (some text)

/-- Changes a setting to the value that a text stands for. -/
def change (setting : Setting) (text : String) (settings : Settings) : Except Fault Settings :=
  (setting.ofText text).map fun value => setting.put value settings

/-- The settings in the order in which they are changed. -/
def every : List Setting := [.pageSize, .scope, .gitProgram, .level, .style, .file]

theorem mem_every (setting : Setting) : setting ∈ every := by cases setting <;> decide

@[simp] theorem get_put (setting : Setting) (value : setting.Value) (settings : Settings) :
    setting.get (setting.put value settings) = value := by cases setting <;> rfl

theorem get_put_of_ne {setting other : Setting} (different : setting ≠ other)
    (value : other.Value) (settings : Settings) :
    setting.get (other.put value settings) = setting.get settings := by
  cases setting <;> cases other <;> first | rfl | exact absurd rfl different

end Setting

namespace Settings

variable {settings after : Settings} {values : List (String × String)} {setting : Setting}

/-! ### Changing settings by texts -/

/-- Changes settings one after the other, each by the text under its name. -/
def changeAll (values : List (String × String)) (named : List Setting) (settings : Settings) :
    Except Fault Settings :=
  named.foldlM (fun settings setting => changeBy values setting.name setting.change settings) settings

theorem override_eq (values : List (String × String)) (settings : Settings) :
    override values settings = changeAll values Setting.every settings := by
  have pageSize : setPageSize = Setting.pageSize.change := by
    funext text settings
    simp only [setPageSize, Setting.change, Setting.ofText]
    cases Numeral.count? text.toList <;> rfl
  rw [override, pageSize]
  simp only [changeAll, Setting.every, List.foldlM_cons, List.foldlM_nil, bind_pure]
  rfl

/-- A text under the name of a setting becomes its value. -/
theorem get_of_changeBy
    (changed : changeBy values setting.name setting.change settings = .ok after) :
    ((lastValue? values setting.name).map setting.ofText).getD (.ok (setting.get settings)) =
      .ok (setting.get after) := by
  rw [changeBy] at changed
  cases found : lastValue? values setting.name with
  | none =>
    rw [found] at changed
    cases changed
    rfl
  | some text =>
    rw [found] at changed
    obtain ⟨value, read, rfl⟩ := exists_of_map_eq_ok changed
    simpa using read

theorem get_of_changeBy_of_ne {other : Setting} (different : setting ≠ other)
    (changed : changeBy values other.name other.change settings = .ok after) :
    setting.get after = setting.get settings := by
  rw [changeBy] at changed
  cases found : lastValue? values other.name with
  | none =>
    rw [found] at changed
    cases changed
    rfl
  | some text =>
    rw [found] at changed
    obtain ⟨value, -, rfl⟩ := exists_of_map_eq_ok changed
    exact Setting.get_put_of_ne different value settings

variable {named : List Setting}

theorem exists_of_changeAll_cons {first : Setting}
    (changed : changeAll values (first :: named) settings = .ok after) :
    ∃ between, changeBy values first.name first.change settings = .ok between ∧
      changeAll values named between = .ok after := by
  rw [changeAll, List.foldlM_cons] at changed
  exact exists_of_bind_eq_ok changed

theorem get_of_changeAll_of_not_mem (absent : setting ∉ named)
    (changed : changeAll values named settings = .ok after) :
    setting.get after = setting.get settings := by
  induction named generalizing settings with
  | nil => cases changed; rfl
  | cons first named ih =>
    rw [List.mem_cons, not_or] at absent
    obtain ⟨between, first, others⟩ := exists_of_changeAll_cons changed
    rw [ih absent.2 others, get_of_changeBy_of_ne absent.1 first]

theorem get_of_changeAll (once : named.Nodup) (member : setting ∈ named)
    (changed : changeAll values named settings = .ok after) :
    ((lastValue? values setting.name).map setting.ofText).getD (.ok (setting.get settings)) =
      .ok (setting.get after) := by
  induction named generalizing settings with
  | nil => cases member
  | cons first named ih =>
    obtain ⟨absent, once⟩ := List.nodup_cons.mp once
    obtain ⟨between, begun, others⟩ := exists_of_changeAll_cons changed
    rcases List.mem_cons.mp member with rfl | member
    · -- The changes that follow are about other settings.
      rw [get_of_changeAll_of_not_mem absent others]
      exact get_of_changeBy begun
    · have different : setting ≠ first := fun same => absent (same ▸ member)
      rw [← get_of_changeBy_of_ne different begun]
      exact ih once member others

/-- Texts change exactly the settings that they name. -/
theorem get_of_override (changed : override values settings = .ok after) (setting : Setting) :
    ((lastValue? values setting.name).map setting.ofText).getD (.ok (setting.get settings)) =
      .ok (setting.get after) := by
  rw [override_eq] at changed
  exact get_of_changeAll (by decide) setting.mem_every changed

/-! ### What a document says -/

/-- A text that is in a form was read to its end. -/
theorem read?_of_parse {format : Format} {text : List Char}
    (parsed : parse format text = .ok after) : read? format text = some after := by
  rw [parse] at parsed
  split at parsed <;> cases parsed
  assumption

/-- A section of a document. -/
inductive Part where
  | history
  | log
deriving DecidableEq, Repr

/-- The name of a section. -/
def Part.name : Part → String
  | .history => "history"
  | .log => "logging"

/-- The names in a section. -/
def Part.names : Part → List String
  | .history => historyNames
  | .log => logNames

end Settings

/-- The section in which a document says a setting, and the name in the section. -/
def Setting.place : Setting → Settings.Part × String
  | .pageSize => (.history, "page_size")
  | .scope => (.history, "filter")
  | .gitProgram => (.history, "git_binary")
  | .level => (.log, "level")
  | .style => (.log, "format")
  | .file => (.log, "file")

namespace Settings

namespace Dialect

variable {ν : Type} {how : Dialect ν}

/-- The value under one of the names, if there is one. -/
def under? (how : Dialect ν) (names : List String) (name : String) (value : ν) : Option ν :=
  (how.fields? names value).bind fun fields => ((names.zip fields).lookup name).join

/-- What is made of the value of a setting. -/
def valueOf? (how : Dialect ν) : (setting : Setting) → ν → Option setting.Value
  | .pageSize => how.count?
  | .scope => fun value => (how.variant? value).bind Scope.ofName?
  | .gitProgram => how.text?
  | .level => how.text?
  | .style => fun value => (how.variant? value).bind LogStyle.ofName?
  | .file => how.optionalText?

/-- What a section says about a setting. -/
def saidIn? (how : Dialect ν) (setting : Setting) (value : ν) : Option setting.Value :=
  (how.under? setting.place.1.names setting.place.2 value).bind (how.valueOf? setting)

/-- What a document says about a setting. -/
def said? (how : Dialect ν) (setting : Setting) (value : ν) : Option setting.Value :=
  (how.under? sectionNames setting.place.1.name value).bind (how.saidIn? setting)

theorem getD_of_field {α : Type} {read : ν → Option α} {default found : α} {slot : Option ν}
    (taken : field read default slot = some found) : (slot.bind read).getD default = found := by
  cases slot with
  | none => exact Option.some.inj taken
  | some value =>
    rw [field] at taken
    rw [Option.bind_some, taken, Option.getD_some]

/-- A section says a setting under its name. -/
theorem saidIn?_eq {setting : Setting} {value : ν} {slots : List (Option ν)} {slot : Option ν}
    (fields : how.fields? setting.place.1.names value = some slots)
    (placed : ((setting.place.1.names.zip slots).lookup setting.place.2).join = slot) :
    how.saidIn? setting value = slot.bind (how.valueOf? setting) := by
  rw [saidIn?, under?, fields, Option.bind_some, placed]

/-- The section on the history is read field by field. -/
theorem exists_of_history? {value : ν} {history : HistorySettings}
    (read : how.history? value = some history) :
    ∃ pageSize scope gitProgram cacheCapacity,
      how.fields? historyNames value = some [pageSize, scope, gitProgram, cacheCapacity] ∧
      field how.count? HistorySettings.standard.pageSize pageSize = some history.pageSize ∧
      field (fun value => (how.variant? value).bind Scope.ofName?) HistorySettings.standard.scope
        scope = some history.scope ∧
      field how.text? HistorySettings.standard.gitProgram gitProgram = some history.gitProgram ∧
      field how.count? HistorySettings.standard.cacheCapacity cacheCapacity =
        some history.cacheCapacity := by
  rw [history?] at read
  split at read
  · obtain ⟨_, pageSize, read⟩ := Option.bind_eq_some_iff.mp read
    obtain ⟨_, scope, read⟩ := Option.bind_eq_some_iff.mp read
    obtain ⟨_, gitProgram, read⟩ := Option.bind_eq_some_iff.mp read
    obtain ⟨_, cacheCapacity, read⟩ := Option.bind_eq_some_iff.mp read
    obtain rfl := Option.some.inj read
    exact ⟨_, _, _, _, ‹_›, pageSize, scope, gitProgram, cacheCapacity⟩
  · cases read

/-- The section on the log is read field by field. -/
theorem exists_of_log? {value : ν} {log : LogSettings} (read : how.log? value = some log) :
    ∃ level style file showsPlace directives,
      how.fields? logNames value = some [level, style, file, showsPlace, directives] ∧
      field how.text? LogSettings.standard.level level = some log.level ∧
      field (fun value => (how.variant? value).bind LogStyle.ofName?) LogSettings.standard.style
        style = some log.style ∧
      field how.optionalText? LogSettings.standard.file file = some log.file ∧
      field how.flag? LogSettings.standard.showsPlace showsPlace = some log.showsPlace ∧
      field how.optionalText? LogSettings.standard.directives directives =
        some log.directives := by
  rw [log?] at read
  split at read
  · obtain ⟨_, level, read⟩ := Option.bind_eq_some_iff.mp read
    obtain ⟨_, style, read⟩ := Option.bind_eq_some_iff.mp read
    obtain ⟨_, file, read⟩ := Option.bind_eq_some_iff.mp read
    obtain ⟨_, showsPlace, read⟩ := Option.bind_eq_some_iff.mp read
    obtain ⟨_, directives, read⟩ := Option.bind_eq_some_iff.mp read
    obtain rfl := Option.some.inj read
    exact ⟨_, _, _, _, _, ‹_›, level, style, file, showsPlace, directives⟩
  · cases read

/-- A document is read section by section. -/
theorem exists_of_read {value : ν} {settings : Settings} (read : how.read value = some settings) :
    ∃ history log, how.fields? sectionNames value = some [history, log] ∧
      field how.history? .standard history = some settings.history ∧
      field how.log? .standard log = some settings.log := by
  rw [Dialect.read] at read
  split at read
  · obtain ⟨_, history, read⟩ := Option.bind_eq_some_iff.mp read
    obtain ⟨_, log, read⟩ := Option.bind_eq_some_iff.mp read
    obtain rfl := Option.some.inj read
    exact ⟨_, _, ‹_›, history, log⟩
  · cases read

/-- The section on the history says the settings on the history. -/
theorem get_of_history? {value : ν} {history : HistorySettings}
    (read : how.history? value = some history) (log : LogSettings)
    (setting : Setting) (here : setting.place.1 = .history) :
    (how.saidIn? setting value).getD (setting.get standard) = setting.get ⟨history, log⟩ := by
  obtain ⟨_, _, _, _, fields, pageSize, scope, gitProgram, -⟩ := exists_of_history? read
  cases setting with
  | pageSize => rw [saidIn?_eq fields rfl]; exact getD_of_field pageSize
  | scope => rw [saidIn?_eq fields rfl]; exact getD_of_field scope
  | gitProgram => rw [saidIn?_eq fields rfl]; exact getD_of_field gitProgram
  | level => cases here
  | style => cases here
  | file => cases here

/-- The section on the log says the settings on the log. -/
theorem get_of_log? {value : ν} {log : LogSettings}
    (read : how.log? value = some log) (history : HistorySettings)
    (setting : Setting) (here : setting.place.1 = .log) :
    (how.saidIn? setting value).getD (setting.get standard) = setting.get ⟨history, log⟩ := by
  obtain ⟨_, _, _, _, _, fields, level, style, file, -⟩ := exists_of_log? read
  cases setting with
  | pageSize => cases here
  | scope => cases here
  | gitProgram => cases here
  | level => rw [saidIn?_eq fields rfl]; exact getD_of_field level
  | style => rw [saidIn?_eq fields rfl]; exact getD_of_field style
  | file => rw [saidIn?_eq fields rfl]; exact getD_of_field file

/-- A section that is missing leaves its settings at their defaults. -/
theorem get_of_no_history (log : LogSettings) (setting : Setting)
    (here : setting.place.1 = .history) : setting.get standard = setting.get ⟨.standard, log⟩ := by
  cases setting <;> first | rfl | cases here

theorem get_of_no_log (history : HistorySettings) (setting : Setting)
    (here : setting.place.1 = .log) : setting.get standard = setting.get ⟨history, .standard⟩ := by
  cases setting <;> first | rfl | cases here

/-- Reading takes every setting from where it is said. -/
theorem get_of_read {value : ν} {settings : Settings} (read : how.read value = some settings)
    (setting : Setting) :
    (how.said? setting value).getD (setting.get standard) = setting.get settings := by
  obtain ⟨history, log, fields, historyRead, logRead⟩ := exists_of_read read
  obtain ⟨_, _⟩ := settings
  rw [said?, under?, fields, Option.bind_some]
  -- Each section is read on its own, and it may be missing.
  cases here : setting.place.1 with
  | history =>
    have slot : ((sectionNames.zip [history, log]).lookup Part.history.name).join = history := rfl
    rw [slot]
    cases history with
    | none =>
      obtain rfl := Option.some.inj historyRead
      exact get_of_no_history _ setting here
    | some part => exact get_of_history? historyRead _ setting here
  | log =>
    have slot : ((sectionNames.zip [history, log]).lookup Part.log.name).join = log := rfl
    rw [slot]
    cases log with
    | none =>
      obtain rfl := Option.some.inj logRead
      exact get_of_no_log _ setting here
    | some part => exact get_of_log? logRead _ setting here

end Dialect

end Settings

end CommitHistory
