/-
# Settings that are loaded as they were saved

Saved settings name every setting, so nothing is left to the defaults when the file is read, and
what was loaded before it is replaced as a whole. Settings that can be used pass the check again.
With rows and changes, everything that is written as JSON comes back.

## Main results

* `Settings.check_eq_ok_iff` — the check passes exactly the settings that can be used.
* `Settings.readJson?_writeJson` — settings are read as they were written.
* `Settings.load_of_write` — settings are loaded from the file that they were saved to.
* `json_read_back` — everything that is written as JSON is read back.
-/

import CommitHistory.Proofs.Files.Directory
import CommitHistory.Proofs.Report.Json
import CommitHistory.Proofs.Text.Utf8
import CommitHistory.Settings.Source

namespace CommitHistory

open Json Text

theorem Scope.ofName?_name (scope : Scope) : ofName? scope.name = some scope := by
  cases scope <;> rfl

theorem LogStyle.ofName?_name (style : LogStyle) : ofName? style.name = some style := by
  cases style <;> rfl

namespace Settings

variable {settings other : Settings} {files after : Files.Directory} {path : String}
  {environment left : Environment}

/-- The check passes exactly the settings that can be used. -/
theorem check_eq_ok_iff : settings.check = .ok () ↔ settings.Valid := by
  rw [check]
  split
  next none => exact ⟨nofun, fun valid => absurd none valid.pageSize_pos.ne'⟩
  next pageSize =>
  split
  next blank => exact ⟨nofun, fun valid => absurd blank valid.gitProgram_shown⟩
  next gitProgram =>
  split
  next none => exact ⟨nofun, fun valid => absurd none valid.cacheCapacity_pos.ne'⟩
  next cacheCapacity =>
  rw [LogSettings.levelOrFault]
  split
  next level known =>
    exact ⟨fun _ => ⟨Nat.pos_of_ne_zero pageSize, gitProgram, Nat.pos_of_ne_zero cacheCapacity,
      by rw [known]; rfl⟩, fun _ => rfl⟩
  next unknown =>
    refine ⟨nofun, fun valid => ?_⟩
    have known := valid.level_known
    rw [unknown] at known
    cases known

/-- Settings whose numbers fit into 64 bits. -/
structure Fits (settings : Settings) : Prop where
  pageSize : settings.history.pageSize ≤ Numeral.maxCount
  cacheCapacity : settings.history.cacheCapacity ≤ Numeral.maxCount

/-! ### The text of settings -/

theorem toJson_ofText? (found : Option String) :
    (Scalar.ofText? found).toJson = Value.ofText? found := by
  cases found <;> rfl

/-- The record of the settings on the history. -/
def historyJson (history : HistorySettings) : Value :=
  .record [("page_size", .ofNat history.pageSize), ("filter", .text history.scope.name),
    ("git_binary", .text history.gitProgram), ("changes_cache_size", .ofNat history.cacheCapacity)]

/-- The record of the settings on the log. -/
def logJson (log : LogSettings) : Value :=
  .record [("level", .text log.level), ("format", .text log.style.name),
    ("file", Value.ofText? log.file), ("include_file_location", .bool log.showsPlace),
    ("filter", Value.ofText? log.directives)]

theorem toJson_eq (settings : Settings) :
    settings.toJson =
      .record [("history", historyJson settings.history), ("logging", logJson settings.log)] := by
  rw [logJson, ← toJson_ofText?, ← toJson_ofText?]
  rfl

theorem jsonFields?_record {fields : List (String × Value)} {names : List String}
    (same : fields.map Prod.fst = names) (distinct : names.Nodup) :
    jsonFields? names (.record fields) = some (fields.map fun field => some field.2) :=
  Value.slots?_record same distinct

theorem historyJson_stands (fits : settings.Fits) :
    Value.Stands jsonDialect.history? (historyJson settings.history) settings.history := by
  have pageSize := Value.stands_ofNat fits.pageSize (Nat.le_refl _)
  have scope := Value.stands_variant (Scope.ofName?_name settings.history.scope)
  have cacheCapacity := Value.stands_ofNat fits.cacheCapacity (Nat.le_refl _)
  constructor
  · exact .record (by simp [Value.Exact.text, pageSize.exact, cacheCapacity.exact])
  · simp [Dialect.history?, historyJson, jsonFields?_record, historyNames, Dialect.field,
      jsonDialect, pageSize.reads, scope.reads, cacheCapacity.reads, Value.text?]

theorem logJson_stands (log : LogSettings) :
    Value.Stands jsonDialect.log? (logJson log) log := by
  have style := Value.stands_variant (LogStyle.ofName?_name log.style)
  have file := Value.stands_ofText? log.file
  have directives := Value.stands_ofText? log.directives
  constructor
  · exact .record (by simp [Value.Exact.text, Value.Exact.bool, file.exact, directives.exact])
  · simp [Dialect.log?, logJson, jsonFields?_record, logNames, Dialect.field, jsonDialect,
      style.reads, file.reads, directives.reads, Value.text?, Value.bool?]

/-- Settings are read back from their record. -/
theorem toJson_stands (fits : settings.Fits) :
    Value.Stands jsonDialect.read settings.toJson settings := by
  have history := historyJson_stands fits
  have log := logJson_stands settings.log
  rw [toJson_eq]
  constructor
  · exact .record (by simp [history.exact, log.exact])
  · have fields : jsonDialect.fields? = jsonFields? := rfl
    simp [Dialect.read, fields, jsonFields?_record, sectionNames, Dialect.field, history.reads,
      log.reads]

/-- Settings are read as they were written. -/
theorem readJson?_writeJson (fits : settings.Fits) :
    readJson? settings.writeJson = some settings :=
  (toJson_stands fits).read?_write .pretty

/-! ### The file of settings -/

/-- Settings are in the file that they were written to. -/
theorem fromFile_of_write (fits : settings.Fits) (form : Format.ofPath path = .ok .json)
    (written : files.write path (Utf8.encode settings.writeJson) = .ok after) :
    fromFile after path = .ok settings := by
  have text : fileText after path = .ok settings.writeJson := by
    rw [fileText, Files.Directory.read_of_write written]
    simp only [Utf8.decode?_encode]
  rw [fromFile, text, form]
  simp only [bind, Except.bind, parse, read?, readJson?_writeJson fits]

/-- Settings are saved as their text, if their file can be written. -/
theorem save_of_write (form : Format.ofPath path = .ok .json)
    (written : files.write path (Utf8.encode settings.writeJson) = .ok after) :
    settings.save files path = .ok (after, settings.writeJson) := by
  rw [save, form]
  simp only [bind, Except.bind, render, written]

/-- One more source is added to what the sources before it gave. -/
theorem addSources_concat {start between : Settings} {earlier : List Source} (source : Source)
    (added : addSources after environment start earlier = (left, .ok between)) :
    addSources after environment start (earlier ++ [source]) =
      addSource after left between source := by
  induction earlier generalizing environment start with
  | nil =>
    obtain ⟨rfl, rfl⟩ : environment = left ∧ start = between := by simpa [addSources] using added
    rw [List.nil_append, addSources]
    split
    next same => rw [addSources, same]
    next same => rw [same]
  | cons first rest ih =>
    rw [addSources] at added
    rw [List.cons_append, addSources]
    split at added
    next same => exact ih added
    next same => cases added

/-- Settings that can be used are loaded from the file that they were saved to, whatever was
loaded before it. -/
theorem load_of_write (valid : settings.Valid) (fits : settings.Fits)
    (form : Format.ofPath path = .ok .json)
    (written : files.write path (Utf8.encode settings.writeJson) = .ok after)
    {earlier : List Source}
    (loaded : addSources after environment standard earlier = (left, .ok other)) :
    load after environment (earlier ++ [.file path]) = (left, .ok settings) := by
  have found : addSource after left other (.file path) = (left, .ok settings) := by
    rw [addSource, if_pos (Files.Directory.exists?_of_write written),
      fromFile_of_write fits form written]
  rw [load, addSources_concat (.file path) loaded, found]
  simp only [check_eq_ok_iff.mpr valid, Except.map]

end Settings

/-! ### Everything that is written as JSON -/

variable {row : Row} {settings other : Settings} {files after : Files.Directory} {path : String}
  {environment left : Settings.Environment} {earlier : List Settings.Source}

/-- Rows and lists of changes are read back from their texts in both layouts, and settings from
the file that they were saved to, which is made if it can be. The compact texts are single
lines, those of trees included. -/
theorem json_read_back (fits : row.Fits) (layout : Layout) (changes : List Change)
    {lines : List TreeLine} (each : ∀ id row, TreeLine.row id row ∈ lines → row.Fits)
    (valid : settings.Valid) (bounded : settings.Fits)
    (form : Settings.Format.ofPath path = .ok .json)
    (written : files.write path (Utf8.encode settings.writeJson) = .ok after)
    (loaded : Settings.addSources after environment .standard earlier = (left, .ok other)) :
    (row.commit.time.IsWhole →
      (read? (write layout row.toJson)).bind Row.ofJson? = some row) ∧
    (read? (Report.changesJson layout changes)).bind (Value.listOf? Change.ofJson?) =
      some changes ∧
    settings.save files path = .ok (after, settings.writeJson) ∧
    Settings.load after environment (earlier ++ [.file path]) = (left, .ok settings) ∧
    '\n' ∉ write .compact row.toJson ∧ '\n' ∉ Report.changesJson .compact changes ∧
    '\n' ∉ Report.treeJson .compact lines := by
  have listed := Change.stands_list changes
  refine ⟨?row, ?changes, ?saved, ?loaded, ?rowLine, ?changesLine, ?treeLine⟩
  case row =>
    intro whole
    exact (Row.stands fits whole).read?_write layout
  case changes => exact listed.read?_write layout
  case saved => exact Settings.save_of_write form written
  case loaded => exact Settings.load_of_write valid bounded form written loaded
  case rowLine => exact newline_notMem_compact (Row.exact_toJson fits)
  case changesLine => exact newline_notMem_compact listed.exact
  case treeLine => exact newline_notMem_compact (TreeLine.exact_lines each)

/-- A row in the first second of the calendar, with the largest numbers and with characters that
are escaped. -/
def sampleEarliest : Row :=
  { commit :=
      { id := "\"a\\b\"", parents := ["b", ""], message := "one\n\ttwo \u0001", author := "é",
        email := some "e", time := ⟨Timestamp.firstSecond, 0⟩,
        statistics := some ⟨Numeral.maxCount, 0, 1⟩, labels := [⟨"v1", .tag⟩] }
    kind := .head
    input := [⟨"b", .lane Color.maxLane⟩]
    output := [⟨"b", .remote⟩, ⟨"", .lane 0⟩]
    labels := [⟨⟨"v1", .tag⟩, some .base⟩, ⟨⟨"v2", .branch⟩, none⟩] }

/-- Settings that are not the defaults. -/
def sampleChosen : Settings :=
  { history := { pageSize := 7, scope := .all, gitProgram := "git2", cacheCapacity := 1 }
    log := { level := "info", style := .json, file := some "log\n", showsPlace := true,
             directives := some "" } }

theorem json_read_back_sampleEarliest :
    (read? (write .pretty sampleEarliest.toJson)).bind Row.ofJson? = some sampleEarliest ∧
    Settings.load (.put .empty ["s.json".toList] (.file (Utf8.encode sampleChosen.writeJson))) []
      [.standard, .file "s.json"] = ([], .ok sampleChosen) := by
  have fits : sampleEarliest.Fits := by
    refine ⟨?_, by decide, by decide, by decide⟩
    rintro _ ⟨rfl⟩
    exact ⟨by decide, by decide, by decide⟩
  have valid : sampleChosen.Valid := ⟨by decide, by decide, by decide, by decide⟩
  have each : ∀ id row, TreeLine.row id row ∈ [] → row.Fits := nofun
  have form : Settings.Format.ofPath "s.json" = .ok .json := rfl
  have written : Files.Directory.empty.write "s.json" (Utf8.encode sampleChosen.writeJson) =
      .ok (.put .empty ["s.json".toList] (.file (Utf8.encode sampleChosen.writeJson))) := rfl
  have earlier : Settings.addSources
      (.put .empty ["s.json".toList] (.file (Utf8.encode sampleChosen.writeJson))) [] .standard
      [.standard] = ([], .ok .standard) := rfl
  obtain ⟨row, -, -, loaded, -⟩ :=
    json_read_back fits .pretty [] each valid ⟨by decide, by decide⟩ form written earlier
  exact ⟨row ⟨by decide, by decide, rfl⟩, loaded⟩

end CommitHistory
