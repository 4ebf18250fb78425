/-
# Which source of settings wins

The program takes its settings from an environment file, a settings file, the environment and the
command line, and a setting that no source gives is at its default. The environment file only adds
variables to the environment, and the environment is looked at after the settings file. So an
entry of the environment file wins against the settings file.

## Main definitions

* `Offers` — what the sources give for a setting.
* `Offers.effective`, `Offers.documented` — the value that wins, and the value that should.

## Main results

* `CommandLine.Program.priority_of_loadSettings` — the settings of the program are the effective
  ones, and when these are the documented ones.
* `CommandLine.Program.not_documented_sampleFiles` — an entry of the environment file wins against
  the settings file.
-/

import CommitHistory.CommandLine.Program
import CommitHistory.Proofs.Settings.Setting

namespace CommitHistory

open Text

namespace Settings

variable {files : Files.Directory} {environment : Environment} {settings after : Settings}

/-! ### Settings files -/

/-- What a text in a form says about a setting. -/
def Format.said? (setting : Setting) : Format → List Char → Option setting.Value
  | .toml, text => (Toml.read? text).bind fun entries =>
    tomlDialect.said? setting (.table .written entries)
  | .yaml, text => (Yaml.Document.read? text).bind fun document =>
    document.root.bind ((yamlDialect document).said? setting)
  | .json, text => (Json.read? text).bind (jsonDialect.said? setting)

/-- A text is read as it says, and what it does not say is at its default. -/
theorem get_of_parse {format : Format} {text : List Char}
    (read : parse format text = .ok settings) (setting : Setting) :
    (format.said? setting text).getD (setting.get standard) = setting.get settings := by
  replace read := read?_of_parse read
  cases format with
  | toml =>
    obtain ⟨entries, parsed, read⟩ := Option.bind_eq_some_iff.mp read
    rw [Format.said?, parsed]
    exact Dialect.get_of_read read setting
  | yaml =>
    obtain ⟨document, parsed, read⟩ := Option.bind_eq_some_iff.mp read
    rw [Format.said?, parsed, Option.bind_some]
    rw [ofYaml?] at read
    cases root : document.root with
    | none =>
      rw [root] at read
      rw [Option.some.inj read]
      rfl
    | some node =>
      rw [root] at read
      exact Dialect.get_of_read read setting
  | json =>
    obtain ⟨value, parsed, read⟩ := Option.bind_eq_some_iff.mp read
    rw [Format.said?, parsed]
    exact Dialect.get_of_read read setting

/-- What a settings file says about a setting. A file that does not exist says nothing. -/
def fileSays? (files : Files.Directory) (setting : Setting) (path : String) :
    Option setting.Value :=
  if files.exists? path then
    (fileText files path).toOption.bind fun text =>
      (Format.ofPath path).toOption.bind fun format => format.said? setting text
  else none

/-- The settings after a settings file. -/
def afterFile (files : Files.Directory) (path : String) (settings : Settings) :
    Except Fault Settings :=
  if files.exists? path then fromFile files path else .ok settings

theorem get_of_afterFile {path : String} (read : afterFile files path standard = .ok after)
    (setting : Setting) :
    (fileSays? files setting path).getD (setting.get standard) = setting.get after := by
  rw [afterFile] at read
  rw [fileSays?]
  split at read
  · obtain ⟨text, found, read⟩ := exists_of_bind_eq_ok read
    obtain ⟨format, named, read⟩ := exists_of_bind_eq_ok read
    rw [if_pos ‹_›, found, named]
    exact get_of_parse read setting
  · rw [if_neg ‹_›]
    obtain rfl := Except.ok.inj read
    rfl

/-! ### Environment files -/

/-- The variables that an environment file adds. -/
def addedVariables (files : Files.Directory) (environment : Environment) : Environment :=
  (readEnvironmentFile files none environment).drop environment.length

theorem prefix_setNew (environment : Environment) (name value : String) :
    environment <+: environment.setNew name value := by
  rw [Environment.setNew]
  split
  · exact List.prefix_rfl
  · exact List.prefix_append _ _

theorem prefix_applyLines (bound : Nat) (environment : Environment)
    (known : List (String × Option String)) (lines : List (List Char)) :
    environment <+: Dotenv.applyLines bound environment known lines := by
  induction bound generalizing environment known lines with
  | zero => exact List.prefix_rfl
  | succ bound ih =>
    rw [Dotenv.applyLines]
    split
    · exact List.prefix_rfl
    · split
      · exact List.prefix_rfl
      · exact ih _ _ _
      · exact (prefix_setNew _ _ _).trans (ih _ _ _)

/-- An environment file leaves the variables that are set alone. -/
theorem readEnvironmentFile_eq (files : Files.Directory) (environment : Environment) :
    readEnvironmentFile files none environment =
      environment ++ addedVariables files environment := by
  have kept : environment <+: readEnvironmentFile files none environment := by
    rw [readEnvironmentFile]
    split
    · exact prefix_applyLines _ _ _ _
    · exact List.prefix_rfl
  obtain ⟨added, same⟩ := kept
  rw [addedVariables, ← same, List.drop_left]

/-- Later variables win against earlier ones. -/
theorem lastValue?_environmentValues_append (earlier later : Environment) (name : String) :
    lastValue? (environmentValues (earlier ++ later)) name =
      (lastValue? (environmentValues later) name).or
        (lastValue? (environmentValues earlier) name) := by
  rw [environmentValues, List.filterMap_append, lastValue?, List.reverse_append,
    List.lookup_append]
  rfl

/-! ### Sources in a row -/

/-- Sources are added one by one, each in the environment that the one before left. -/
theorem exists_of_addSources_cons {source : Source} {rest : List Source}
    (added : (addSources files environment settings (source :: rest)).2 = .ok after) :
    ∃ between, (addSource files environment settings source).2 = .ok between ∧
      (addSources files (addSource files environment settings source).1 between rest).2 =
        .ok after := by
  rw [addSources] at added
  cases taken : addSource files environment settings source with
  | mk _ result =>
    rw [taken] at added
    cases result with
    | error fault => cases added
    | ok between => exact ⟨between, rfl, added⟩

/-- Settings that are loaded are what the sources give. -/
theorem addSources_of_load {sources : List Source}
    (loaded : (load files environment sources).2 = .ok settings) :
    (addSources files environment standard sources).2 = .ok settings := by
  rw [load] at loaded
  cases taken : addSources files environment standard sources with
  | mk _ result =>
    rw [taken] at loaded
    cases result with
    | error fault => cases loaded
    | ok found =>
      obtain ⟨_, -, same⟩ := exists_of_map_eq_ok loaded
      rw [same]

end Settings

/-! ### What the sources give -/

/-- What the sources give for a setting. A text that stands for no value is a fault. -/
structure Offers (setting : Setting) where
  commandLine : Option (Except Fault setting.Value)
  environment : Option (Except Fault setting.Value)
  file : Option (Except Fault setting.Value)
  /-- The variables that the environment file adds; those that are set already are not its. -/
  environmentFile : Option (Except Fault setting.Value)

namespace Offers

variable {setting : Setting}

/-- The value that wins in the documented order: the command line, the environment, the settings
file, the environment file and the defaults. -/
def documented (offers : Offers setting) : Except Fault setting.Value :=
  (offers.commandLine.or
    (offers.environment.or (offers.file.or offers.environmentFile))).getD
      (.ok (setting.get .standard))

/-- The value that wins: the variables of the environment file come before the environment and
before the settings file. -/
def effective (offers : Offers setting) : Except Fault setting.Value :=
  (offers.commandLine.or
    (offers.environmentFile.or (offers.environment.or offers.file))).getD
      (.ok (setting.get .standard))

/-- The environment file stands against no source that is documented to be stronger, unless the
command line decides. -/
def Undisputed (offers : Offers setting) : Prop :=
  offers.commandLine.isSome ∨
    ∀ own ∈ offers.environmentFile, ∀ other ∈ offers.environment.or offers.file, other = own

theorem documented_eq_effective_iff (offers : Offers setting) :
    offers.documented = offers.effective ↔ offers.Undisputed := by
  obtain ⟨commandLine, environment, file, environmentFile⟩ := offers
  cases commandLine with
  | some value => simp [documented, effective, Undisputed]
  | none =>
    cases environmentFile with
    | none => simp [documented, effective, Undisputed]
    | some own =>
      -- Only the stronger one of the two sources in between matters.
      have between : environment.or (file.or (some own)) = (environment.or file).or (some own) :=
        Option.or_assoc.symm
      simp only [documented, effective, Undisputed, between]
      cases environment.or file <;> simp

end Offers

namespace CommandLine.Program

open Settings

variable {files : Files.Directory} {environment : Environment} {options : Options}
  {settings : Settings}

/-- What the sources of the program give for a setting. -/
def offers (files : Files.Directory) (environment : Environment) (options : Options)
    (setting : Setting) : Offers setting where
  commandLine := (lastValue? options.overrides setting.name).map setting.ofText
  environment := (lastValue? (environmentValues environment) setting.name).map setting.ofText
  file := (options.settingsFile.bind (fileSays? files setting)).map .ok
  environmentFile :=
    (lastValue? (environmentValues (addedVariables files environment)) setting.name).map
      setting.ofText

/-- The settings before the environment is looked at. -/
def based (files : Files.Directory) (options : Options) : Except Fault Settings :=
  match options.settingsFile with
  | none => .ok .standard
  | some path => afterFile files path .standard

theorem get_of_based {found : Settings} (taken : based files options = .ok found)
    (environment : Environment) (setting : Setting) :
    ((offers files environment options setting).file).getD (.ok (setting.get .standard)) =
      .ok (setting.get found) := by
  rw [based] at taken
  cases path : options.settingsFile with
  | none =>
    rw [path] at taken
    obtain rfl := Except.ok.inj taken
    simp [offers, path]
  | some path' =>
    rw [path] at taken
    rw [← get_of_afterFile taken setting]
    cases said : fileSays? files setting path' <;> simp [offers, path, said]

theorem load_of_loadSettings (loaded : (loadSettings files environment options).2 = .ok settings) :
    (load files environment (.standard :: sources options)).2 = .ok settings := by
  have named : ((sources options).foldl Holder.add .start).sources =
      .standard :: sources options := by
    rw [sources]
    cases options.settingsFile <;> rfl
  rw [loadSettings, Holder.load, named] at loaded
  split at loaded
  · rename_i taken
    rw [taken]
    exact loaded
  · cases loaded

/-- The settings of the program come from the settings file, then from the variables, then from
the command line. -/
theorem exists_of_loadSettings (loaded : (loadSettings files environment options).2 = .ok settings) :
    ∃ found varied, based files options = .ok found ∧
      found.override (environmentValues (readEnvironmentFile files none environment)) =
        .ok varied ∧
      varied.override options.overrides = .ok settings := by
  have added := addSources_of_load (load_of_loadSettings loaded)
  -- The defaults are the start, and the environment file changes nothing but the variables.
  obtain ⟨_, start, added⟩ := exists_of_addSources_cons added
  obtain rfl := Except.ok.inj start
  rw [sources, List.append_assoc, List.singleton_append] at added
  obtain ⟨_, start, added⟩ := exists_of_addSources_cons added
  obtain rfl := Except.ok.inj start
  rw [based]
  cases path : options.settingsFile with
  | none =>
    rw [path] at added
    obtain ⟨varied, changed, added⟩ := exists_of_addSources_cons added
    obtain ⟨last, overridden, added⟩ := exists_of_addSources_cons added
    obtain rfl := Except.ok.inj added
    exact ⟨_, varied, rfl, changed, overridden⟩
  | some path =>
    rw [path] at added
    obtain ⟨found, read, added⟩ := exists_of_addSources_cons added
    obtain ⟨varied, changed, added⟩ := exists_of_addSources_cons added
    obtain ⟨last, overridden, added⟩ := exists_of_addSources_cons added
    obtain rfl := Except.ok.inj added
    exact ⟨found, varied, read, changed, overridden⟩

/-- The settings of the program are the ones that are effective, and a setting is the documented
one exactly if it is undisputed. -/
theorem priority_of_loadSettings
    (loaded : (loadSettings files environment options).2 = .ok settings) (setting : Setting) :
    (offers files environment options setting).effective = .ok (setting.get settings) ∧
      ((offers files environment options setting).documented = .ok (setting.get settings) ↔
        (offers files environment options setting).Undisputed) := by
  obtain ⟨found, varied, taken, changed, overridden⟩ := exists_of_loadSettings loaded
  have effective :
      (offers files environment options setting).effective = .ok (setting.get settings) := by
    have first := get_of_based taken environment setting
    have second := get_of_override changed setting
    have third := get_of_override overridden setting
    rw [readEnvironmentFile_eq, lastValue?_environmentValues_append, Option.map_or, ← first] at second
    rw [← third, ← second, Offers.effective]
    simp only [offers, Option.getD_or]
  rw [← effective]
  exact ⟨rfl, Offers.documented_eq_effective_iff _⟩

/-! ### An environment file against a settings file -/

/-- An environment file that gives the page size and the scope, and a settings file that gives
another page size. -/
def sampleFiles : Files.Directory :=
  ⟨[([".env".toList],
      .file (Utf8.encode "SCM_HISTORY_PAGE_SIZE=5\nSCM_HISTORY_FILTER=all\n".toList)),
    (["history.json".toList],
      .file (Utf8.encode "\x7b\"history\":\x7b\"page_size\":20\x7d\x7d".toList))]⟩

/-- The settings file and a log level are named on the command line. -/
def sampleOptions : Options :=
  { Options.standard with settingsFile := some "history.json", logLevel := some "debug" }

/-- The settings of the program then. -/
def sampleSettings : Settings :=
  { history := { HistorySettings.standard with pageSize := 5, scope := .all }
    log := { LogSettings.standard with level := "debug" } }

theorem loadSettings_sampleFiles :
    (loadSettings sampleFiles [] sampleOptions).2 = .ok sampleSettings := by
  have loaded : (loadSettings sampleFiles [] sampleOptions).2.toOption = some sampleSettings := by
    decide +kernel
  cases result : (loadSettings sampleFiles [] sampleOptions).2 with
  | error fault => rw [result] at loaded; cases loaded
  | ok settings => rw [result] at loaded; rw [Option.some.inj loaded]

/-- The scope is undisputed, so it is the documented one. -/
theorem priority_sampleFiles :
    (loadSettings sampleFiles [] sampleOptions).2 = .ok sampleSettings ∧
      (offers sampleFiles [] sampleOptions .scope).Undisputed ∧
      (offers sampleFiles [] sampleOptions .scope).documented = .ok .all ∧
      (offers sampleFiles [] sampleOptions .level).effective = .ok "debug" := by
  have silent : (offers sampleFiles [] sampleOptions .scope).environment.or
      (offers sampleFiles [] sampleOptions .scope).file = none := by
    have unsaid : fileSays? sampleFiles .scope "history.json" = none := by decide +kernel
    exact congrArg (Option.map Except.ok) unsaid
  have undisputed : (offers sampleFiles [] sampleOptions .scope).Undisputed := by
    refine Or.inr fun own _ other given => ?_
    rw [silent] at given
    cases given
  exact ⟨loadSettings_sampleFiles, undisputed,
    (priority_of_loadSettings loadSettings_sampleFiles .scope).2.mpr undisputed,
    (priority_of_loadSettings loadSettings_sampleFiles .level).1⟩

/-- The settings file gives a page size, and the environment file changes it. -/
theorem not_documented_sampleFiles :
    (loadSettings sampleFiles [] sampleOptions).2 = .ok sampleSettings ∧
      (offers sampleFiles [] sampleOptions .pageSize).documented = .ok 20 ∧
      Setting.pageSize.get sampleSettings = 5 := by
  have said : fileSays? sampleFiles .pageSize "history.json" = some 20 := by decide +kernel
  have given : (offers sampleFiles [] sampleOptions .pageSize).file = some (.ok 20) :=
    congrArg (Option.map Except.ok) said
  refine ⟨loadSettings_sampleFiles, ?_, rfl⟩
  rw [Offers.documented, given]
  rfl

end CommandLine.Program

end CommitHistory
