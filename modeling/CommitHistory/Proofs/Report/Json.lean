/-
# Rows and changes that are read as they were written

A value stands for something if it is made of texts and whole numbers and is read as that thing.
Texts, counts, lists, names of variants and fields that may be null do so, and then every record
that is put together from them. What stands for something comes back from its JSON text.

## Main definitions

* `Json.Value.Stands` — a value from which something is read back.
* `Row.Fits` — rows whose numbers can be read.

## Main results

* `Row.stands`, `Change.stands` — rows and changes are read back from their records.
* `Json.Value.Stands.read?_write` — they are read back from the texts of these records.
-/

import CommitHistory.Proofs.Json.Reading
import CommitHistory.Proofs.Timestamp.Rendering
import CommitHistory.Report.Json
import Mathlib.Data.List.Nodup

namespace CommitHistory

open Text

namespace Json.Value

variable {α : Type} {read : Value → Option α} {write : α → Value} {value : Value} {a : α}

/-- The value is made of texts and whole numbers and is read as `a`. -/
structure Stands (read : Value → Option α) (value : Value) (a : α) : Prop where
  exact : value.Exact
  reads : read value = some a

/-- What a value stands for comes back from its text. -/
theorem Stands.read?_write (stands : Stands read value a) (layout : Layout) :
    (read? (Json.write layout value)).bind read = some a := by
  rw [Json.read?_write layout stands.exact]
  exact stands.reads

theorem stands_text (value : String) : Stands text? (.text value) value :=
  ⟨.text value, rfl⟩

theorem stands_ofNat {limit n : Nat} (bounded : n ≤ limit) (wide : limit ≤ Numeral.maxCount) :
    Stands (count? limit) (ofNat n) n := by
  constructor
  · have counted : n ≤ Numeral.maxCount := bounded.trans wide
    exact .integer (by omega) (by exact_mod_cast counted)
  · exact if_pos bounded

/-- The name of a variant stands for the variant. -/
theorem stands_variant {ofName? : String → Option α} {name : String} (named : ofName? name = some a) :
    Stands (fun value => value.variant?.bind ofName?) (.text name) a :=
  ⟨.text name, named⟩

theorem stands_list {items : List α} (each : ∀ a ∈ items, Stands read (write a) a) :
    Stands (listOf? read) (.list (items.map write)) items := by
  constructor
  · refine .list fun value member => ?_
    obtain ⟨a, found, rfl⟩ := List.mem_map.mp member
    exact (each a found).exact
  · have reads : (items.map write).mapM read = some items := by
      induction items with
      | nil => rfl
      | cons a items ih =>
        have later := ih fun a member => each a (List.mem_cons_of_mem _ member)
        simp [(each a List.mem_cons_self).reads, later]
    exact reads

variable (read) in
/-- A field that may be null stands for something or for nothing. -/
theorem stands_optional (nothing : read .null = none) {found : Option α}
    (each : ∀ a ∈ found, Stands read (write a) a) :
    Stands (optional? read) ((found.map write).getD .null) found := by
  cases found with
  | none => exact ⟨.null, rfl⟩
  | some a =>
    have stands := each a rfl
    constructor
    · exact stands.exact
    · have solid : write a ≠ .null := by
        intro null
        rw [null] at stands
        exact absurd (nothing.symm.trans stands.reads) nofun
      rw [Option.map_some, Option.getD_some, optional?]
      · rw [stands.reads, Option.map_some]
      · exact solid

theorem stands_ofText? (found : Option String) : Stands (optional? text?) (ofText? found) found := by
  have same : ofText? found = (found.map text).getD .null := by cases found <;> rfl
  rw [same]
  exact stands_optional text? rfl fun value _ => stands_text value

theorem lookup_of_mem {fields : List (String × Value)} (distinct : (fields.map Prod.fst).Nodup)
    {field : String × Value} (member : field ∈ fields) :
    fields.lookup field.1 = some field.2 := by
  induction fields with
  | nil => cases member
  | cons first rest ih =>
    obtain ⟨new, distinct⟩ := List.nodup_cons.mp distinct
    rcases List.mem_cons.mp member with rfl | later
    · exact List.lookup_cons_self
    · have other : (field.1 == first.1) = false := by
        rw [beq_eq_false_iff_ne]
        intro same
        exact new (same ▸ List.mem_map_of_mem later)
      rw [List.lookup_cons, other]
      exact ih distinct later

/-- The fields of a record are found by their names, if no name occurs twice. -/
theorem slots?_record {fields : List (String × Value)} {names : List String}
    (same : fields.map Prod.fst = names) (distinct : names.Nodup) :
    (record fields).slots? names = some (fields.map fun field => some field.2) := by
  subst same
  have once : ((fields.map Prod.fst).any fun name => 1 < fields.countP (·.1 = name)) = false := by
    rw [List.any_eq_false]
    intro name _
    have most : (fields.map Prod.fst).count name ≤ 1 := List.nodup_iff_count_le_one.mp distinct name
    rw [List.count, List.countP_map] at most
    simpa [Function.comp_def, beq_eq_decide] using most
  have found : (fields.map Prod.fst).map (fun name => List.lookup name fields) =
      fields.map fun field => some field.2 := by
    rw [List.map_map]
    exact List.map_congr_left fun field member => lookup_of_mem distinct member
  simp only [slots?, once, found, Bool.false_eq_true, if_false]

end Json.Value

open Json

/-! ### Commits -/

theorem LabelKind.ofName?_name (kind : LabelKind) : ofName? kind.name = some kind := by
  cases kind <;> rfl

theorem Label.stands (label : Label) : Value.Stands ofJson? label.toJson label := by
  have kind := Value.stands_variant (LabelKind.ofName?_name label.kind)
  constructor
  · exact .record (by simp [Value.Exact.text])
  · simp [ofJson?, toJson, Value.slots?_record, Value.need, Value.text?, kind.reads]

/-- Statistics whose counts fit into 64 bits. -/
structure Statistics.Fits (statistics : Statistics) : Prop where
  filesChanged : statistics.filesChanged ≤ Numeral.maxCount
  insertions : statistics.insertions ≤ Numeral.maxCount
  deletions : statistics.deletions ≤ Numeral.maxCount

theorem Statistics.stands {statistics : Statistics} (fits : statistics.Fits) :
    Value.Stands ofJson? statistics.toJson statistics := by
  have files := Value.stands_ofNat fits.filesChanged (Nat.le_refl _)
  have insertions := Value.stands_ofNat fits.insertions (Nat.le_refl _)
  have deletions := Value.stands_ofNat fits.deletions (Nat.le_refl _)
  constructor
  · exact .record (by simp [files.exact, insertions.exact, deletions.exact])
  · simp [ofJson?, toJson, Value.slots?_record, Value.need, files.reads, insertions.reads,
      deletions.reads]

theorem Timestamp.stands {time : Timestamp} (whole : time.IsWhole) :
    Value.Stands ofJson? time.toJson time := by
  constructor
  · exact .text _
  · simp [ofJson?, toJson, Value.text?, parse?_render whole]

/-- A commit whose statistics fit. -/
def Commit.Fits (commit : Commit) : Prop := ∀ statistics ∈ commit.statistics, statistics.Fits

theorem Commit.exact_toJson {commit : Commit} (fits : commit.Fits) : commit.toJson.Exact := by
  have parents := Value.stands_list fun parent (_ : parent ∈ commit.parents) =>
    Value.stands_text parent
  have email := Value.stands_ofText? commit.email
  have time : commit.time.toJson.Exact := .text _
  have statistics := Value.stands_optional Statistics.ofJson? rfl
    fun statistics found => Statistics.stands (fits statistics found)
  have labels := Value.stands_list fun label (_ : label ∈ commit.labels) => Label.stands label
  exact .record (by simp [Value.Exact.text, parents.exact, email.exact, time, statistics.exact,
    labels.exact])

/-- A commit of a whole second is read back from its record. -/
theorem Commit.stands {commit : Commit} (fits : commit.Fits) (whole : commit.time.IsWhole) :
    Value.Stands ofJson? commit.toJson commit := by
  refine ⟨exact_toJson fits, ?_⟩
  have parents := Value.stands_list fun parent (_ : parent ∈ commit.parents) =>
    Value.stands_text parent
  have email := Value.stands_ofText? commit.email
  have time := Timestamp.stands whole
  have statistics := Value.stands_optional Statistics.ofJson? rfl
    fun statistics found => Statistics.stands (fits statistics found)
  have labels := Value.stands_list fun label (_ : label ∈ commit.labels) => Label.stands label
  simp [ofJson?, toJson, fieldNames, Value.slots?_record, Value.need, Value.allow, Value.text?,
    parents.reads, email.reads, time.reads, statistics.reads, labels.reads]

/-! ### Rows -/

/-- A colour whose number can be read. -/
def Color.Fits : Color → Prop
  | .lane index => index ≤ maxLane
  | _ => True

instance : DecidablePred Color.Fits
  | .lane index => inferInstanceAs (Decidable (index ≤ Color.maxLane))
  | .branch | .remote | .base | .neutral => .isTrue trivial

theorem Color.stands {color : Color} (fits : color.Fits) :
    Value.Stands ofJson? color.toJson color := by
  cases color with
  | lane index =>
    have bounded : index ≤ maxLane := fits
    have number := Value.stands_ofNat bounded (by decide)
    constructor
    · exact .record (by simp [number.exact])
    · simp [ofJson?, toJson, number.reads]
  | _ => exact ⟨.text _, rfl⟩

theorem Lane.stands {lane : Lane} (fits : lane.color.Fits) :
    Value.Stands ofJson? lane.toJson lane := by
  have color := Color.stands fits
  constructor
  · exact .record (by simp [Value.Exact.text, color.exact])
  · simp [ofJson?, toJson, Value.slots?_record, Value.need, Value.text?, color.reads]

theorem ColoredLabel.stands {colored : ColoredLabel} (fits : ∀ color ∈ colored.color, color.Fits) :
    Value.Stands ofJson? colored.toJson colored := by
  have label := Label.stands colored.label
  have color := Value.stands_optional Color.ofJson? rfl
    fun color found => Color.stands (fits color found)
  constructor
  · exact .record (by simp [label.exact, color.exact])
  · simp [ofJson?, toJson, Value.slots?_record, Value.need, Value.allow, label.reads, color.reads]

theorem RowKind.ofName?_name (kind : RowKind) : ofName? kind.name = some kind := by
  cases kind <;> rfl

/-- A row of a commit that fits, in colours whose numbers can be read. -/
structure Row.Fits (row : Row) : Prop where
  commit : row.commit.Fits
  input : ∀ lane ∈ row.input, lane.color.Fits
  output : ∀ lane ∈ row.output, lane.color.Fits
  labels : ∀ colored ∈ row.labels, ∀ color ∈ colored.color, color.Fits

section
variable {row : Row} (fits : row.Fits)
include fits

theorem Row.stands_input :
    Value.Stands (Value.listOf? Lane.ofJson?) (.list (row.input.map Lane.toJson)) row.input :=
  Value.stands_list fun lane member => Lane.stands (fits.input lane member)

theorem Row.stands_output :
    Value.Stands (Value.listOf? Lane.ofJson?) (.list (row.output.map Lane.toJson)) row.output :=
  Value.stands_list fun lane member => Lane.stands (fits.output lane member)

theorem Row.stands_labels :
    Value.Stands (Value.listOf? ColoredLabel.ofJson?) (.list (row.labels.map ColoredLabel.toJson))
      row.labels :=
  Value.stands_list fun colored member => ColoredLabel.stands (fits.labels colored member)

theorem Row.exact_toJson : row.toJson.Exact := by
  have commit := Commit.exact_toJson fits.commit
  exact .record (by simp [Value.Exact.text, commit, (stands_input fits).exact,
    (stands_output fits).exact, (stands_labels fits).exact])

/-- A row of a whole second is read back from its record. -/
theorem Row.stands (whole : row.commit.time.IsWhole) :
    Value.Stands ofJson? row.toJson row := by
  refine ⟨exact_toJson fits, ?_⟩
  have commit := Commit.stands fits.commit whole
  have kind := Value.stands_variant (RowKind.ofName?_name row.kind)
  simp [ofJson?, toJson, fieldNames, Value.slots?_record, Value.need, commit.reads, kind.reads,
    (stands_input fits).reads, (stands_output fits).reads, (stands_labels fits).reads]

end

/-! ### Changes -/

theorem ChangeKind.ofName?_name (kind : ChangeKind) : ofName? kind.name = some kind := by
  cases kind <;> rfl

/-- A change is read back from its record. -/
theorem Change.stands (change : Change) : Value.Stands ofJson? change.toJson change := by
  have oldPath := Value.stands_ofText? change.oldPath
  have kind := Value.stands_variant (ChangeKind.ofName?_name change.kind)
  constructor
  · exact .record (by simp [Value.Exact.text, oldPath.exact, kind.exact])
  · simp [ofJson?, toJson, Value.slots?_record, Value.need, Value.allow, Value.text?,
      oldPath.reads, kind.reads]

theorem Change.stands_list (changes : List Change) :
    Value.Stands (Value.listOf? ofJson?) (.list (changes.map toJson)) changes :=
  Value.stands_list fun change _ => stands change

/-! ### Trees -/

/-- The lines of a tree whose rows fit are made of texts and whole numbers. -/
theorem TreeLine.exact_lines {lines : List TreeLine}
    (fits : ∀ id row, TreeLine.row id row ∈ lines → row.Fits) :
    (Value.list (lines.map toJson)).Exact := by
  refine .list fun value member => ?_
  obtain ⟨line, found, rfl⟩ := List.mem_map.mp member
  cases line with
  | row id shown =>
    have row := Row.exact_toJson (fits id shown found)
    exact .record (by simp [Value.Exact.text, row])
  | more id => exact .record (by simp [Value.Exact.text])

end CommitHistory
