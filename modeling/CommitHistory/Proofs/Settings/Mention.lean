/-
# What a source of settings mentions

A source of settings mentions some of them and is silent about the others. The environment and the
command line leave alone what they do not mention. A settings file that exists does not: what it
does not mention is at its default afterwards, whatever the sources before it have set. So a list
of sources changes only what its sources mention exactly if no settings file comes too late.

## Main definitions

* `Settings.Field`, `Settings.Field.get` — all the settings, with their values.
* `Settings.Source.mentions` — the settings that a source mentions.
* `Settings.ChangesOnlyMentioned` — every source of a list changes only what it mentions.

## Main results

* `Settings.get_of_addSource`, `Settings.get_of_addSources` — what becomes of a setting that
  sources do not mention.
* `Settings.changesOnlyMentioned_iff` — when a list of sources changes only what its sources
  mention.
* `Settings.changesOnlyMentioned_sources` — the sources of the program do.
* `Settings.not_changesOnlyMentioned_lateFile` — a settings file after other sources need not.
-/

import CommitHistory.Proofs.Settings.Priority

namespace CommitHistory.Settings

open Text

/-! ### All settings -/

/-- A setting, whether a single text can change it or only a document can say it. -/
inductive Field where
  | single (setting : Setting)
  | cacheCapacity
  | showsPlace
  | directives
deriving DecidableEq, Repr

namespace Field

/-- What the values of a setting are. -/
@[reducible]
def Value : Field → Type
  | .single setting => setting.Value
  | .cacheCapacity => Nat
  | .showsPlace => Bool
  | .directives => Option String

/-- The value of a setting. -/
def get : (field : Field) → Settings → field.Value
  | .single setting, settings => setting.get settings
  | .cacheCapacity, settings => settings.history.cacheCapacity
  | .showsPlace, settings => settings.log.showsPlace
  | .directives, settings => settings.log.directives

/-- The section in which a document says a setting, and the name in the section. -/
def place : Field → Part × String
  | .single setting => setting.place
  | .cacheCapacity => (.history, "changes_cache_size")
  | .showsPlace => (.log, "include_file_location")
  | .directives => (.log, "filter")

/-- There are no other settings. -/
theorem eq_of_get {first second : Settings} (same : ∀ field, get field first = get field second) :
    first = second := by
  obtain ⟨⟨_, _, _, _⟩, ⟨_, _, _, _, _⟩⟩ := first
  obtain ⟨⟨_, _, _, _⟩, ⟨_, _, _, _, _⟩⟩ := second
  obtain rfl := same (.single .pageSize)
  obtain rfl := same (.single .scope)
  obtain rfl := same (.single .gitProgram)
  obtain rfl := same .cacheCapacity
  obtain rfl := same (.single .level)
  obtain rfl := same (.single .style)
  obtain rfl := same (.single .file)
  obtain rfl := same .showsPlace
  obtain rfl := same .directives
  rfl

theorem get_put_of_ne {field : Field} {setting : Setting} (different : field ≠ .single setting)
    (value : setting.Value) (settings : Settings) :
    field.get (setting.put value settings) = field.get settings := by
  cases field with
  | single other =>
    refine Setting.get_put_of_ne ?_ value settings
    rintro rfl
    exact different rfl
  | _ => cases setting <;> rfl

end Field

variable {files : Files.Directory} {environment varied : Environment} {field : Field}
  {before after : Settings} {values : List (String × String)} {source : Source}
  {sources : List Source}

/-! ### Texts under names -/

/-- There is a text under the name of a setting. Some settings cannot be changed by a text. -/
def named (values : List (String × String)) : Field → Bool
  | .single setting => (lastValue? values setting.name).isSome
  | _ => false

theorem get_of_changeBy_of_not_named {setting : Setting} (silent : named values field = false)
    (changed : changeBy values setting.name setting.change before = .ok after) :
    field.get after = field.get before := by
  rw [changeBy] at changed
  cases found : lastValue? values setting.name with
  | none =>
    rw [found] at changed
    cases changed
    rfl
  | some text =>
    rw [found] at changed
    obtain ⟨value, -, rfl⟩ := exists_of_map_eq_ok changed
    refine Field.get_put_of_ne ?_ value before
    rintro rfl
    rw [named, found] at silent
    cases silent

/-- Texts leave the settings alone that they do not name. -/
theorem get_of_override_of_not_named (silent : named values field = false)
    (changed : override values before = .ok after) : field.get after = field.get before := by
  rw [override_eq] at changed
  generalize Setting.every = settings at changed
  induction settings generalizing before with
  | nil => cases changed; rfl
  | cons first settings ih =>
    obtain ⟨between, begun, others⟩ := exists_of_changeAll_cons changed
    rw [ih others, get_of_changeBy_of_not_named silent begun]

/-! ### Documents -/

namespace Dialect

variable {ν : Type} {how : Dialect ν}

/-- A document has a value for a setting. -/
def mentions (how : Dialect ν) (field : Field) (value : ν) : Bool :=
  ((how.under? sectionNames field.place.1.name value).bind
    (how.under? field.place.1.names field.place.2)).isSome

/-- A section that has no value for a setting leaves it at its default. -/
theorem get_of_history?_of_silent {value : ν} {history : HistorySettings}
    (read : how.history? value = some history) (log : LogSettings)
    (here : field.place.1 = .history)
    (silent : how.under? historyNames field.place.2 value = none) :
    field.get ⟨history, log⟩ = field.get standard := by
  obtain ⟨_, _, _, _, fields, pageSize, scope, gitProgram, cacheCapacity⟩ := exists_of_history? read
  rw [under?, fields] at silent
  cases field with
  | single setting =>
    cases setting with
    | pageSize => cases silent; exact (Option.some.inj pageSize).symm
    | scope => cases silent; exact (Option.some.inj scope).symm
    | gitProgram => cases silent; exact (Option.some.inj gitProgram).symm
    | _ => cases here
  | cacheCapacity => cases silent; exact (Option.some.inj cacheCapacity).symm
  | _ => cases here

theorem get_of_log?_of_silent {value : ν} {log : LogSettings} (read : how.log? value = some log)
    (history : HistorySettings) (here : field.place.1 = .log)
    (silent : how.under? logNames field.place.2 value = none) :
    field.get ⟨history, log⟩ = field.get standard := by
  obtain ⟨_, _, _, _, _, fields, level, style, file, showsPlace, directives⟩ := exists_of_log? read
  rw [under?, fields] at silent
  cases field with
  | single setting =>
    cases setting with
    | level => cases silent; exact (Option.some.inj level).symm
    | style => cases silent; exact (Option.some.inj style).symm
    | file => cases silent; exact (Option.some.inj file).symm
    | _ => cases here
  | showsPlace => cases silent; exact (Option.some.inj showsPlace).symm
  | directives => cases silent; exact (Option.some.inj directives).symm
  | cacheCapacity => cases here

/-- So does a section that is missing. -/
theorem get_of_standard_history (log : LogSettings) (here : field.place.1 = .history) :
    field.get ⟨.standard, log⟩ = field.get standard := by
  cases field with
  | single setting => exact (get_of_no_history log setting here).symm
  | cacheCapacity => rfl
  | _ => cases here

theorem get_of_standard_log (history : HistorySettings) (here : field.place.1 = .log) :
    field.get ⟨history, .standard⟩ = field.get standard := by
  cases field with
  | single setting => exact (get_of_no_log history setting here).symm
  | cacheCapacity => cases here
  | _ => rfl

/-- A document that has no value for a setting leaves it at its default. -/
theorem get_of_read_of_not_mentions {value : ν} {settings : Settings}
    (read : how.read value = some settings) (silent : how.mentions field value = false) :
    field.get settings = field.get standard := by
  obtain ⟨history, log, fields, historyRead, logRead⟩ := exists_of_read read
  obtain ⟨_, _⟩ := settings
  rw [mentions, Option.isSome_eq_false_iff, Option.isNone_iff_eq_none, under?, fields,
    Option.bind_some] at silent
  cases here : field.place.1 with
  | history =>
    rw [here] at silent
    cases history with
    | none =>
      obtain rfl := Option.some.inj historyRead
      exact get_of_standard_history _ here
    | some part => exact get_of_history?_of_silent historyRead _ here silent
  | log =>
    rw [here] at silent
    cases log with
    | none =>
      obtain rfl := Option.some.inj logRead
      exact get_of_standard_log _ here
    | some part => exact get_of_log?_of_silent logRead _ here silent

end Dialect

/-- A text in a form has a value for a setting. -/
def Format.mentions (field : Field) : Format → List Char → Bool
  | .toml, text => (Toml.read? text).any fun entries =>
    tomlDialect.mentions field (.table .written entries)
  | .yaml, text => (Yaml.Document.read? text).any fun document =>
    document.root.any ((yamlDialect document).mentions field)
  | .json, text => (Json.read? text).any (jsonDialect.mentions field)

theorem get_of_parse_of_not_mentions {format : Format} {text : List Char}
    (read : parse format text = .ok after) (silent : format.mentions field text = false) :
    field.get after = field.get standard := by
  replace read := read?_of_parse read
  cases format with
  | toml =>
    obtain ⟨entries, parsed, read⟩ := Option.bind_eq_some_iff.mp read
    rw [Format.mentions, parsed] at silent
    exact Dialect.get_of_read_of_not_mentions read silent
  | yaml =>
    obtain ⟨document, parsed, read⟩ := Option.bind_eq_some_iff.mp read
    rw [Format.mentions, parsed, Option.any_some] at silent
    rw [ofYaml?] at read
    cases root : document.root with
    | none =>
      rw [root] at read
      rw [Option.some.inj read]
    | some node =>
      rw [root] at read silent
      exact Dialect.get_of_read_of_not_mentions read silent
  | json =>
    obtain ⟨value, parsed, read⟩ := Option.bind_eq_some_iff.mp read
    rw [Format.mentions, parsed] at silent
    exact Dialect.get_of_read_of_not_mentions read silent

/-! ### Sources -/

/-- A settings file that exists has a value for a setting. -/
def fileMentions (files : Files.Directory) (field : Field) (path : String) : Bool :=
  files.exists? path &&
    match fileText files path, Format.ofPath path with
    | .ok text, .ok format => format.mentions field text
    | _, _ => false

namespace Source

/-- What a source mentions. An environment file adds variables, and it is the environment that
mentions settings then. -/
def mentions (files : Files.Directory) (environment : Environment) (field : Field) :
    Source → Bool
  | .standard | .environmentFile _ => false
  | .file path => fileMentions files field path
  | .environment => named (environmentValues environment) field
  | .overrides values => named values field

/-- A source puts the settings back that it does not mention: a settings file that exists. -/
def replaces (files : Files.Directory) : Source → Bool
  | .file path => files.exists? path
  | _ => false

/-- The variables after a source. -/
def environmentAfter (files : Files.Directory) (environment : Environment) : Source → Environment
  | .environmentFile path => readEnvironmentFile files path environment
  | _ => environment

end Source

theorem addSource_environment (files : Files.Directory) (environment : Environment)
    (settings : Settings) (source : Source) :
    (addSource files environment settings source).1 =
      source.environmentAfter files environment := by
  cases source <;> rfl

theorem get_of_fromFile {path : String} (there : files.exists? path = true)
    (read : fromFile files path = .ok after) (silent : fileMentions files field path = false) :
    field.get after = field.get standard := by
  obtain ⟨text, found, read⟩ := exists_of_bind_eq_ok read
  obtain ⟨format, known, read⟩ := exists_of_bind_eq_ok read
  rw [fileMentions, there, Bool.true_and, found, known] at silent
  exact get_of_parse_of_not_mentions read silent

/-- A setting that a source does not mention stays as it is, or it is put back. -/
theorem get_of_addSource (added : (addSource files environment before source).2 = .ok after)
    (silent : source.mentions files environment field = false) :
    field.get after = field.get (if source.replaces files then standard else before) := by
  cases source with
  | standard | environmentFile _ =>
    obtain rfl := Except.ok.inj added
    rfl
  | file path =>
    rw [addSource] at added
    rw [Source.replaces]
    split at added
    · rw [if_pos ‹_›]
      exact get_of_fromFile ‹_› added silent
    · rw [if_neg ‹_›, Except.ok.inj added]
  | environment | overrides _ => exact get_of_override_of_not_named silent added

/-! ### Sources in a row -/

/-- None of the sources in a row mentions a setting. -/
def Silent (files : Files.Directory) (field : Field) : Environment → List Source → Prop
  | _, [] => True
  | environment, source :: rest =>
    source.mentions files environment field = false ∧
      Silent files field (source.environmentAfter files environment) rest

/-- A setting that no source in a row mentions stays as it is, or one of them has put it back. -/
theorem get_of_addSources (added : (addSources files environment before sources).2 = .ok after)
    (silent : Silent files field environment sources) :
    field.get after =
      field.get (if sources.any (Source.replaces files) then standard else before) := by
  induction sources generalizing environment before with
  | nil => rw [Except.ok.inj added]; rfl
  | cons source rest ih =>
    obtain ⟨first, silent⟩ := silent
    obtain ⟨between, taken, added⟩ := exists_of_addSources_cons added
    rw [addSource_environment] at added
    rw [List.any_cons, ih added silent]
    -- Once a setting is put back it stays so.
    cases rest.any (Source.replaces files) with
    | true => rw [Bool.or_true]; rfl
    | false => rw [Bool.or_false, ← get_of_addSource taken first]; rfl

/-- Every source of a list leaves the settings that it does not mention as the sources before it
have left them. -/
def ChangesOnlyMentioned (files : Files.Directory) (environment : Environment)
    (sources : List Source) : Prop :=
  ∀ earlier source later, sources = earlier ++ source :: later →
    ∀ varied before after, addSources files environment standard earlier = (varied, .ok before) →
      (addSource files varied before source).2 = .ok after →
      ∀ field, source.mentions files varied field = false → field.get after = field.get before

/-- A list of sources changes only what its sources mention if each settings file that is read finds
the settings at their defaults that it does not mention. -/
theorem ChangesOnlyMentioned.of_early
    (early : ∀ earlier path later, sources = earlier ++ .file path :: later →
      files.exists? path = true → ∀ varied before found,
        addSources files environment standard earlier = (varied, .ok before) →
        fromFile files path = .ok found →
        ∀ field, fileMentions files field path = false → field.get before = field.get standard) :
    ChangesOnlyMentioned files environment sources := by
  intro earlier source later split varied before after taken added field silent
  rw [get_of_addSource added silent]
  split
  next replaces =>
    -- Only a settings file puts settings back, and those that it does are at their defaults.
    cases source with
    | file path =>
      rw [Source.replaces] at replaces
      rw [addSource, if_pos replaces] at added
      exact (early earlier path later split replaces varied before after taken added field
        silent).symm
    | _ => cases replaces
  next => rfl

/-- Every source of a list changes only what it mentions exactly if each settings file that is read
finds the settings at their defaults that it does not mention. And a setting that a part of the
list does not mention comes through exactly if no settings file is read there, or if it was at its
default. -/
theorem changesOnlyMentioned_iff (files : Files.Directory) (environment : Environment)
    (sources : List Source) :
    (ChangesOnlyMentioned files environment sources ↔
      ∀ earlier path later, sources = earlier ++ .file path :: later → files.exists? path = true →
        ∀ varied before found,
          addSources files environment standard earlier = (varied, .ok before) →
          fromFile files path = .ok found →
          ∀ field, fileMentions files field path = false →
            field.get before = field.get standard) ∧
    ∀ earlier later, sources = earlier ++ later →
      ∀ varied before after, addSources files environment standard earlier = (varied, .ok before) →
        (addSources files varied before later).2 = .ok after →
        ∀ field, Silent files field varied later →
          (field.get after = field.get before ↔
            (later.any (Source.replaces files) = true →
              field.get before = field.get standard)) := by
  refine ⟨⟨?_, .of_early⟩, ?_⟩
  · intro keeps earlier path later split there varied before found taken read field silent
    have added : (addSource files varied before (.file path)).2 = .ok found := by
      rw [addSource, if_pos there]
      exact read
    rw [← keeps earlier _ later split varied before found taken added field silent]
    exact get_of_fromFile there read silent
  · intro earlier later split varied before after taken added field silent
    rw [get_of_addSources added silent]
    cases later.any (Source.replaces files) with
    | true => simp [eq_comm]
    | false => simp

/-- The program reads its settings file before any other source has set something. -/
theorem changesOnlyMentioned_sources (files : Files.Directory) (environment : Environment)
    (options : CommandLine.Options) :
    ChangesOnlyMentioned files environment
      (.standard :: CommandLine.Program.sources options) := by
  refine .of_early fun earlier path later split there varied before found taken _ field _ => ?_
  have nothing : Silent files field environment earlier := by
    cases named : options.settingsFile with
    | none =>
      have member : Source.file path ∈ .standard :: CommandLine.Program.sources options :=
        split ▸ List.mem_append_right _ List.mem_cons_self
      simp [CommandLine.Program.sources, named] at member
    | some file =>
      rw [CommandLine.Program.sources, named] at split
      rcases earlier with _ | ⟨_, _ | ⟨_, _ | ⟨_, _ | ⟨_, _ | ⟨_, rest⟩⟩⟩⟩⟩
      case cons.cons.nil => cases split; exact ⟨rfl, rfl, trivial⟩
      case cons.cons.cons.cons.cons => simp at split
      all_goals cases split
  have added : (addSources files environment standard earlier).2 = .ok before := by rw [taken]
  rw [get_of_addSources added nothing, ite_self]

/-! ### A settings file that comes too late -/

/-- A settings file that mentions the scope only. -/
def scopeFile : Files.Directory :=
  ⟨[(["history.json".toList],
    .file (Utf8.encode "\x7b\"history\":\x7b\"filter\":\"all\"\x7d\x7d".toList))]⟩

/-- The page size is set, and then the settings file is read. -/
def lateFile : List Source :=
  [.standard, .overrides [("page_size", "5")], .file "history.json"]

/-- The settings file does not mention the page size, and puts it back to the default. -/
theorem not_changesOnlyMentioned_lateFile : ¬ ChangesOnlyMentioned scopeFile [] lateFile := by
  intro keeps
  have taken : addSources scopeFile [] standard (lateFile.take 2) =
      ([], .ok (Setting.pageSize.put 5 standard)) := rfl
  have read : (fromFile scopeFile "history.json").toOption =
      some (Setting.scope.put .all standard) := by decide +kernel
  have silent : fileMentions scopeFile (.single .pageSize) "history.json" = false := by
    decide +kernel
  have added : (addSource scopeFile [] (Setting.pageSize.put 5 standard)
      (.file "history.json")).2 = .ok (Setting.scope.put .all standard) := by
    have there : scopeFile.exists? "history.json" = true := by decide +kernel
    rw [addSource, if_pos there]
    cases found : fromFile scopeFile "history.json" with
    | error fault => rw [found] at read; cases read
    | ok settings => rw [found] at read; rw [Option.some.inj read]
  have same := keeps (lateFile.take 2) _ [] rfl [] _ _ taken added (.single .pageSize) silent
  exact absurd same (by decide)

end CommitHistory.Settings
