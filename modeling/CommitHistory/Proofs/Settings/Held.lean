/-
# Settings that are held

Whoever holds settings may name sources and load from them again and again, while files and
variables change. What is held can be used at all times. To load is to apply all sources that were
named so far to the defaults, in order, and to check what comes of it; if a source cannot be
applied, or the outcome cannot be used, everything stays as it is.

## Main definitions

* `Settings.IsLast`, `Settings.VariableOf` — the entry that counts for a setting.
* `Settings.Overridden` — what texts for settings make of settings.
* `Settings.Source.Gives`, `Settings.Applied` — what one source gives, and many in a row.
* `Settings.Holder.Act`, `Settings.Holder.run` — what can be done with a holder.
* `Settings.Holder.Sound` — what can be relied on.

## Main results

* `Settings.override_eq_ok_iff`, `Settings.addSources_eq_ok_iff` — sources are applied as they
  should be, and fail only if they cannot be.
* `Settings.Holder.sound_of_run` — every holder can be relied on.
-/

import CommitHistory.Proofs.Settings.Mention
import CommitHistory.Proofs.Settings.Saved

namespace CommitHistory.Settings

open Text

variable {files : Files.Directory} {environment varied final : Environment}
  {before between after : Settings} {values : List (String × String)} {source : Source}
  {sources : List Source}

/-! ### Texts under names -/

/-- The text of the last entry under a name that fits. -/
def IsLast (fits : String → Prop) (entries : List (String × String)) (text : String) : Prop :=
  ∃ earlier name later, entries = earlier ++ (name, text) :: later ∧ fits name ∧
    ∀ entry ∈ later, ¬ fits entry.1

theorem mem_lastValue?_iff {name text : String} :
    text ∈ lastValue? values name ↔ IsLast (· = name) values text := by
  rw [Option.mem_def, lastValue?, List.lookup_eq_some_iff]
  constructor
  · rintro ⟨later, earlier, split, others⟩
    refine ⟨earlier.reverse, name, later.reverse, ?_, rfl, fun entry listed same => ?_⟩
    · rw [← List.reverse_reverse values, split]
      simp
    · have other := others entry (List.mem_reverse.mp listed)
      simp [same] at other
  · rintro ⟨earlier, _, later, rfl, rfl, others⟩
    refine ⟨later.reverse, earlier.reverse, by simp, fun entry listed => ?_⟩
    simpa using fun same => others entry (List.mem_reverse.mp listed) (Eq.symm same)

/-- The name of a variable for a setting: the common start, and then the name of the setting in
small letters, capitals or both. -/
def VariableOf (setting : Setting) (name : String) : Prop :=
  ∃ ending, name = variableStart ++ ending ∧ toLowerAscii ending = setting.name

/-- What is read from a variable is its text, under its name in small letters without the start. -/
theorem variableValue_eq_some_iff {name text : String} {found : String × String} :
    ((dropPrefix? variableStart.toList name.toList).map fun ending =>
        (toLowerAscii (String.ofList ending), text)) = some found ↔
      ∃ ending, name = variableStart ++ ending ∧ (toLowerAscii ending, text) = found := by
  rw [Option.map_eq_some_iff]
  constructor
  · rintro ⟨ending, dropped, rfl⟩
    refine ⟨String.ofList ending, ?_, rfl⟩
    rw [← String.toList_inj, dropPrefix?_eq_some dropped, String.toList_append,
      String.toList_ofList]
  · rintro ⟨ending, rfl, rfl⟩
    exact ⟨ending.toList, by rw [String.toList_append, dropPrefix?_append],
      by rw [String.ofList_toList]⟩

/-- The last text that an environment has under the name of a setting is that of the last variable
for the setting. -/
theorem isLast_environmentValues {setting : Setting} {text : String} :
    IsLast (· = setting.name) (environmentValues environment) text ↔
      IsLast (VariableOf setting) environment text := by
  constructor
  · rintro ⟨_, _, _, split, rfl, others⟩
    obtain ⟨earlier, rest, rfl, -, split⟩ := List.filterMap_eq_append_iff.mp split
    obtain ⟨passed, ⟨name, _⟩, later, rfl, -, read, rfl⟩ := List.filterMap_eq_cons_iff.mp split
    obtain ⟨ending, named, same⟩ := variableValue_eq_some_iff.mp read
    obtain ⟨lowered, rfl⟩ := Prod.mk.inj same
    refine ⟨earlier ++ passed, name, later, by simp, ⟨ending, named, lowered⟩, ?_⟩
    rintro entry listed ⟨ending, named, lowered⟩
    refine others (toLowerAscii ending, entry.2) (List.mem_filterMap.mpr ⟨entry, listed, ?_⟩) lowered
    exact variableValue_eq_some_iff.mpr ⟨ending, named, rfl⟩
  · rintro ⟨earlier, name, later, rfl, ⟨ending, named, lowered⟩, others⟩
    refine ⟨environmentValues earlier, setting.name, environmentValues later, ?_, rfl, ?_⟩
    · rw [environmentValues, List.filterMap_append, ← lowered]
      exact congrArg _ (List.filterMap_cons_some
        (variableValue_eq_some_iff.mpr ⟨ending, named, rfl⟩))
    · intro entry listed same
      obtain ⟨_, own, read⟩ := List.mem_filterMap.mp listed
      obtain ⟨ending, named, rfl⟩ := variableValue_eq_some_iff.mp read
      exact others _ own ⟨ending, named, same⟩

/-- What some texts that are told for settings make of settings. A setting for which one is told
has the value of its text, and every other one has the value from before. -/
structure Overridden (told : Setting → String → Prop) (before after : Settings) : Prop where
  read : ∀ setting text, told setting text → setting.ofText text = .ok (setting.get after)
  kept : ∀ field, (∀ setting text, field = Field.single setting → ¬ told setting text) →
    field.get after = field.get before

variable {told : Setting → String → Prop}

/-- The texts and the settings before leave no choice. -/
theorem Overridden.unique (first : Overridden told before between)
    (second : Overridden told before after) : between = after := by
  refine Field.eq_of_get fun field => ?_
  by_cases given : ∃ setting text, field = .single setting ∧ told setting text
  · obtain ⟨setting, text, rfl, given⟩ := given
    have same := (first.read setting text given).symm.trans (second.read setting text given)
    exact Except.ok.inj same
  · have silent (setting : Setting) (text : String) (own : field = .single setting) :
        ¬ told setting text := fun other => given ⟨setting, text, own, other⟩
    rw [first.kept field silent, second.kept field silent]

theorem named_eq_false {field : Field} (silent : ∀ setting text,
      field = Field.single setting → text ∉ lastValue? values setting.name) :
    named values field = false := by
  cases field with
  | single setting =>
    rw [named, Option.isSome_eq_false_iff, Option.isNone_iff_eq_none,
      Option.eq_none_iff_forall_ne_some]
    exact fun text found => silent setting text rfl found
  | _ => rfl

theorem overridden_of_override (changed : override values before = .ok after) :
    Overridden (fun setting text => text ∈ lastValue? values setting.name) before after := by
  refine ⟨fun setting text found => ?_, fun _ silent => ?_⟩
  · have value := get_of_override changed setting
    rwa [Option.mem_def.mp found] at value
  · exact get_of_override_of_not_named (named_eq_false silent) changed

/-- Texts that stand for values can all be taken over. -/
theorem exists_changeAll
    (readable : ∀ setting : Setting, ∀ text ∈ lastValue? values setting.name,
      ∃ value, setting.ofText text = .ok value) (named : List Setting) (settings : Settings) :
    ∃ after, changeAll values named settings = .ok after := by
  induction named generalizing settings with
  | nil => exact ⟨settings, rfl⟩
  | cons setting named ih =>
    obtain ⟨between, begun⟩ :
        ∃ between, changeBy values setting.name setting.change settings = .ok between := by
      rw [changeBy]
      cases found : lastValue? values setting.name with
      | none => exact ⟨settings, rfl⟩
      | some text =>
        obtain ⟨value, read⟩ := readable setting text found
        exact ⟨setting.put value settings, by simp only [Setting.change, read, Except.map]⟩
    rw [changeAll, List.foldlM_cons, begun]
    exact ih between

/-- Texts are taken over as they should be, and nothing but a text without a value is in the
way. -/
theorem override_eq_ok_iff
    (same : ∀ setting text, told setting text ↔ text ∈ lastValue? values setting.name) :
    override values before = .ok after ↔ Overridden told before after := by
  obtain rfl : told = fun setting text => text ∈ lastValue? values setting.name :=
    funext₂ fun setting text => propext (same setting text)
  refine ⟨overridden_of_override, fun overridden => ?_⟩
  have readable (setting : Setting) (text : String)
      (found : text ∈ lastValue? values setting.name) :
      ∃ value, setting.ofText text = .ok value := ⟨_, overridden.read setting text found⟩
  -- Some settings come of the texts, and there is only one choice.
  obtain ⟨found, changed⟩ := exists_changeAll readable Setting.every before
  rw [← override_eq] at changed
  rw [changed, (overridden_of_override changed).unique overridden]

/-- An environment tells settings by the variables for them, of which the last one counts. -/
theorem override_environmentValues_eq_ok_iff :
    override (environmentValues environment) before = .ok after ↔
      Overridden (fun setting => IsLast (VariableOf setting) environment) before after :=
  override_eq_ok_iff fun _ _ => (mem_lastValue?_iff.trans isLast_environmentValues).symm

/-- A list of values tells settings by their names. -/
theorem override_values_eq_ok_iff :
    override values before = .ok after ↔
      Overridden (fun setting => IsLast (· = setting.name) values) before after :=
  override_eq_ok_iff fun _ _ => mem_lastValue?_iff.symm

/-! ### Sources -/

/-- What a source gives: the variables and the settings after it. -/
inductive Source.Gives (files : Files.Directory) (environment : Environment) (before : Settings) :
    Source → Environment → Settings → Prop
  | standard : Gives files environment before .standard environment before
  /-- An environment file changes variables, not settings. -/
  | environmentFile {path : Option String} {bytes : List UInt8}
      (found : environmentFile? files path = some bytes) :
      Gives files environment before (.environmentFile path)
        (Dotenv.apply environment bytes) before
  | noEnvironmentFile {path : Option String} (missing : environmentFile? files path = none) :
      Gives files environment before (.environmentFile path) environment before
  | missing {path : String} (missing : files.exists? path = false) :
      Gives files environment before (.file path) environment before
  /-- A settings file that exists must be readable to its end. -/
  | file {path : String} {bytes : List UInt8} {text : List Char} {format : Format}
      {found : Settings} (there : files.exists? path = true) (read : files.read path = .ok bytes)
      (decoded : Utf8.decode? bytes = some text) (form : Format.ofPath path = .ok format)
      (parsed : read? format text = some found) :
      Gives files environment before (.file path) environment found
  /-- The variables that are for settings count, the last one for each setting. -/
  | environment {after : Settings}
      (overridden :
        Overridden (fun setting => IsLast (VariableOf setting) environment) before after) :
      Gives files environment before .environment environment after
  /-- So do the values under the names of settings. -/
  | overrides {values : List (String × String)} {after : Settings}
      (overridden : Overridden (fun setting => IsLast (· = setting.name) values) before after) :
      Gives files environment before (.overrides values) environment after

theorem fromFile_eq_ok_iff {path : String} :
    fromFile files path = .ok after ↔
      ∃ bytes text format, files.read path = .ok bytes ∧ Utf8.decode? bytes = some text ∧
        Format.ofPath path = .ok format ∧ read? format text = some after := by
  constructor
  · intro read
    obtain ⟨text, found, read⟩ := exists_of_bind_eq_ok read
    obtain ⟨format, form, parsed⟩ := exists_of_bind_eq_ok read
    rw [fileText] at found
    split at found
    next => cases found
    next bytes content =>
      split at found <;> cases found
      next decoded => exact ⟨bytes, text, format, content, decoded, form, read?_of_parse parsed⟩
  · rintro ⟨bytes, text, format, content, decoded, form, parsed⟩
    simp only [fromFile, fileText, content, decoded, form, parse, parsed, bind, Except.bind]

/-- A source gives what it should, and it fails only if it gives nothing. -/
theorem addSource_eq_ok_iff :
    addSource files environment before source = (varied, .ok after) ↔
      source.Gives files environment before varied after := by
  constructor
  · intro added
    cases source with
    | standard => cases added; exact .standard
    | environmentFile path =>
      cases added
      rw [readEnvironmentFile]
      split
      next found => exact .environmentFile found
      next missing => exact .noEnvironmentFile missing
    | file path =>
      obtain ⟨rfl, read⟩ := Prod.mk.inj added
      split at read
      next there =>
        obtain ⟨_, _, _, content, decoded, form, parsed⟩ := fromFile_eq_ok_iff.mp read
        exact .file there content decoded form parsed
      next missing => cases read; exact .missing (eq_false_of_ne_true missing)
    | environment =>
      obtain ⟨rfl, changed⟩ := Prod.mk.inj added
      exact .environment (override_environmentValues_eq_ok_iff.mp changed)
    | overrides values =>
      obtain ⟨rfl, changed⟩ := Prod.mk.inj added
      exact .overrides (override_values_eq_ok_iff.mp changed)
  · intro gives
    cases gives with
    | standard => rfl
    | environmentFile found | noEnvironmentFile found =>
      rw [addSource, readEnvironmentFile, found]
    | missing missing => rw [addSource, missing]; rfl
    | file there content decoded form parsed =>
      rw [addSource, if_pos there,
        fromFile_eq_ok_iff.mpr ⟨_, _, _, content, decoded, form, parsed⟩]
    | environment overridden =>
      rw [addSource, override_environmentValues_eq_ok_iff.mpr overridden]
    | overrides overridden =>
      rw [addSource, override_values_eq_ok_iff.mpr overridden]

/-- What sources in a row give, each in the variables and on the settings that the one before has
left. -/
inductive Applied (files : Files.Directory) :
    Environment → Settings → List Source → Environment → Settings → Prop
  | nil {environment : Environment} {settings : Settings} :
      Applied files environment settings [] environment settings
  | cons {environment varied final : Environment} {before between after : Settings}
      {source : Source} {rest : List Source}
      (gives : source.Gives files environment before varied between)
      (applied : Applied files varied between rest final after) :
      Applied files environment before (source :: rest) final after

/-- Sources in a row give what they should, and the first that gives nothing fails them all. -/
theorem addSources_eq_ok_iff :
    addSources files environment before sources = (final, .ok after) ↔
      Applied files environment before sources final after := by
  induction sources generalizing environment before with
  | nil =>
    constructor
    · intro added; cases added; exact .nil
    · intro applied; cases applied; rfl
  | cons source rest ih =>
    constructor
    · intro added
      rw [addSources] at added
      split at added
      next varied between taken => exact .cons (addSource_eq_ok_iff.mp taken) (ih.mp added)
      next => cases added
    · rintro (_ | ⟨gives, applied⟩)
      rw [addSources, addSource_eq_ok_iff.mpr gives]
      exact ih.mpr applied

/-- What is loaded is what the sources give on the defaults, if it can be used. -/
theorem load_eq_ok_iff :
    load files environment sources = (final, .ok after) ↔
      Applied files environment standard sources final after ∧ after.Valid := by
  rw [← addSources_eq_ok_iff, ← check_eq_ok_iff, load]
  constructor
  · intro loaded
    split at loaded
    next varied found taken =>
      obtain ⟨rfl, checked⟩ := Prod.mk.inj loaded
      obtain ⟨_, passed, rfl⟩ := exists_of_map_eq_ok checked
      exact ⟨taken, passed⟩
    next => cases loaded
  · rintro ⟨taken, passed⟩
    rw [taken]
    simp only [passed, Except.map]

/-! ### Holders -/

namespace Holder

/-- What can be done with a holder. The files and the variables are those at the time. -/
inductive Act where
  | name (source : Source)
  | load (files : Files.Directory) (environment : Environment)

/-- The source that is named. -/
def Act.source? : Act → Option Source
  | .name source => some source
  | .load _ _ => none

/-- A holder after something was done with it. -/
def act (holder : Holder) : Act → Holder
  | .name source => holder.add source
  | .load files environment => (holder.load files environment).1

/-- The holder after all that was done with it since its start. -/
def run (acts : List Act) : Holder := acts.foldl act start

/-- What can be relied on, with the sources that were named. -/
structure Sound (sources : List Source) (holder : Holder) : Prop where
  /-- What is held can be used. -/
  valid : holder.settings.Valid
  /-- What is loaded is what the sources give on the defaults; what was held before is of no
  account. -/
  loads : ∀ files environment final settings,
    (holder.load files environment).2 = (final, .ok settings) ↔
      Applied files environment standard sources final settings ∧ settings.Valid
  /-- What is loaded is held. -/
  takes : ∀ files environment settings, (holder.load files environment).2.2 = .ok settings →
    (holder.load files environment).1 = { holder with settings }
  /-- If nothing can be loaded, everything stays as it is. -/
  keeps : ∀ files environment fault, (holder.load files environment).2.2 = .error fault →
    (holder.load files environment).1 = holder

variable {holder : Holder}

theorem load_cases (holder : Holder) (files : Files.Directory) (environment : Environment) :
    (∃ final settings, Settings.load files environment holder.sources = (final, .ok settings) ∧
        holder.load files environment = ({ holder with settings }, final, .ok settings)) ∨
      ∃ final fault, Settings.load files environment holder.sources = (final, .error fault) ∧
        holder.load files environment = (holder, final, .error fault) := by
  rw [Holder.load]
  split
  next final settings loaded => exact Or.inl ⟨final, settings, loaded, rfl⟩
  next final fault loaded => exact Or.inr ⟨final, fault, loaded, rfl⟩

theorem sound_of_valid (valid : holder.settings.Valid) : Sound holder.sources holder := by
  refine ⟨valid, fun files environment final settings => ?_, fun files environment settings => ?_,
    fun files environment fault => ?_⟩ <;>
    obtain ⟨_, _, loaded, same⟩ | ⟨_, _, loaded, same⟩ := holder.load_cases files environment
  · rw [← load_eq_ok_iff, loaded, same]
  · rw [← load_eq_ok_iff, loaded, same]
  · rw [same]
    rintro ⟨⟩
    rfl
  · rw [same]
    exact nofun
  · rw [same]
    exact nofun
  · rw [same]
    exact fun _ => rfl

theorem valid_standard : Settings.standard.Valid := ⟨by decide, by decide, by decide, by decide⟩

theorem valid_load (valid : holder.settings.Valid) (files : Files.Directory)
    (environment : Environment) : (holder.load files environment).1.settings.Valid := by
  obtain ⟨final, settings, loaded, same⟩ | ⟨_, _, _, same⟩ := holder.load_cases files environment
  · rw [same]
    exact (load_eq_ok_iff.mp loaded).2
  · rwa [same]

theorem sources_load (holder : Holder) (files : Files.Directory) (environment : Environment) :
    (holder.load files environment).1.sources = holder.sources := by
  obtain ⟨_, _, _, same⟩ | ⟨_, _, _, same⟩ := holder.load_cases files environment <;> rw [same]

/-- Whatever is done with a holder, what it holds can be used. -/
theorem valid_run (acts : List Act) : (run acts).settings.Valid := by
  induction acts using List.reverseRecOn with
  | nil => exact valid_standard
  | append_singleton acts act ih =>
    rw [run, List.foldl_concat]
    cases act with
    | name source => exact ih
    | load files environment => exact valid_load ih files environment

/-- A holder has the sources that were named, in order. -/
theorem sources_run (acts : List Act) :
    (run acts).sources = .standard :: acts.filterMap Act.source? := by
  induction acts using List.reverseRecOn with
  | nil => rfl
  | append_singleton acts act ih =>
    rw [run, List.foldl_concat, List.filterMap_append, ← List.cons_append, ← ih]
    cases act with
    | name source => rfl
    | load files environment =>
      exact (sources_load _ files environment).trans (List.append_nil _).symm

/-- Every holder can be relied on, whatever was done with it. -/
theorem sound_of_run (acts : List Act) :
    Sound (.standard :: acts.filterMap Act.source?) (run acts) := by
  rw [← sources_run]
  exact sound_of_valid (valid_run acts)

end Holder

end CommitHistory.Settings
