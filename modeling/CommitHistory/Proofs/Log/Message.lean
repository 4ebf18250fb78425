/-
# What a message can do to a page

The message is the one field that anybody may fill, and it is written between the same separators
as the others. A field separator in a message ends it early, and a size line behind it is taken
for the line of the log. A record separator breaks the record, so that the page is refused or
has one commit too many. Nothing else in a message does any harm.

## Main definitions

* `Log.Undamaged` — every commit of a page is told as the log meant it.

## Main results

* `Log.undamaged_iff` — which messages leave a page undamaged, and what is read otherwise.
* `Log.not_undamaged_forgedPage` — a message that forges the size of its change.
-/

import CommitHistory.Proofs.Log.Page
import Mathlib.Data.List.Forall2

namespace CommitHistory.Log

open Text

variable {entry : Entry} {entries : List Entry}

/-- A commit is told as the log meant it. The message is only promised when it is plain. -/
structure ToldBy (entry : Entry) (commit : Commit) : Prop where
  fields : commit = { entry.commit with message := commit.message }
  message : Plain entry.message → commit.message = String.ofList (trim entry.message.toList)

/-- A page is read, and every commit of it is told as the log meant it. -/
def Undamaged (entries : List Entry) : Prop :=
  ∃ commits, parse (page entries) = .ok commits ∧ List.Forall₂ ToldBy entries commits

/-! ### Broken records -/

/-- The records that count. -/
def marked (record : List Char) : Bool := !(trim record).isEmpty

theorem marked_of_mem {record : List Char} (member : fieldSeparator ∈ record) :
    marked record = true := by
  simpa [marked] using trim_ne_nil_of_mem member

/-- A text with a field separator has a piece that counts. -/
theorem one_le_countP_splitOn {text : List Char} (member : fieldSeparator ∈ text) :
    1 ≤ (splitOn recordSeparator text).countP marked := by
  have other : fieldSeparator ≠ recordSeparator := by decide
  obtain ⟨piece, listed, member⟩ := exists_mem_splitOn member other
  exact List.countP_pos_iff.mpr ⟨piece, listed, marked_of_mem member⟩

theorem one_le_countP_record (entry : Entry) :
    1 ≤ (splitOn recordSeparator entry.record).countP marked :=
  one_le_countP_splitOn (by simp [Entry.record, fieldSeparator_mem_after])

/-- A record separator in the message leaves a piece that counts on both sides. -/
theorem two_le_countP_record (broken : recordSeparator ∈ entry.message.toList) :
    2 ≤ (splitOn recordSeparator entry.record).countP marked := by
  obtain ⟨before, behind, split⟩ := List.append_of_mem broken
  have cut : entry.record = (entry.head.flatMap (· ++ [fieldSeparator]) ++ before) ++
      recordSeparator :: (behind ++ entry.after) := by
    simp [Entry.record, split]
  -- Each side keeps a field separator: the fields come before, and the message ends behind.
  have first : fieldSeparator ∈ entry.head.flatMap (· ++ [fieldSeparator]) ++ before := by
    simp [Entry.head]
  have last : fieldSeparator ∈ behind ++ entry.after := by simp [fieldSeparator_mem_after]
  rw [cut, splitOn_append, List.countP_append]
  exact Nat.add_le_add (one_le_countP_splitOn first) (one_le_countP_splitOn last)

/-- The pieces of all records. -/
def pieces (entries : List Entry) : List (List Char) :=
  (entries.map Entry.record).flatMap (splitOn recordSeparator)

theorem countP_pieces_cons (entry : Entry) (entries : List Entry) :
    (pieces (entry :: entries)).countP marked =
      (splitOn recordSeparator entry.record).countP marked + (pieces entries).countP marked := by
  rw [pieces, List.map_cons, List.flatMap_cons, List.countP_append, pieces]

theorem length_le_countP_pieces (entries : List Entry) :
    entries.length ≤ (pieces entries).countP marked := by
  induction entries with
  | nil => exact Nat.le_refl 0
  | cons entry entries ih =>
    have first := one_le_countP_record entry
    rw [countP_pieces_cons, List.length_cons]
    omega

/-- A record separator in a message makes more pieces that count than there are commits. -/
theorem length_lt_countP_pieces (member : entry ∈ entries)
    (broken : recordSeparator ∈ entry.message.toList) :
    entries.length < (pieces entries).countP marked := by
  induction member with
  | head others =>
    have first := two_le_countP_record broken
    have others := length_le_countP_pieces others
    rw [countP_pieces_cons, List.length_cons]
    omega
  | tail first member ih =>
    have first := one_le_countP_record first
    rw [countP_pieces_cons, List.length_cons]
    omega

/-- Every record gives one commit. -/
theorem length_of_mapM_parseRecord {records : List (List Char)} {commits : List Commit}
    (read : records.mapM parseRecord = .ok commits) : commits.length = records.length := by
  induction records generalizing commits with
  | nil => cases read; rfl
  | cons record records ih =>
    rw [List.mapM_cons] at read
    cases first : parseRecord record with
    | error flaw => rw [first] at read; cases read
    | ok commit =>
      cases others : records.mapM parseRecord with
      | error flaw => rw [first, others] at read; cases read
      | ok commits =>
        rw [first, others] at read
        cases read
        rw [List.length_cons, List.length_cons, ih others]

/-- A page has as many commits as it has pieces that count. -/
theorem length_of_parse {commits : List Commit} (read : parse (page entries) = .ok commits) :
    commits.length = (pieces entries).countP marked := by
  rw [parse_page_eq] at read
  rw [List.countP_eq_length_filter]
  exact length_of_mapM_parseRecord read

/-! ### Pages as the log meant them -/

/-- A message that does no harm: no record separator is in it, and it forges no size line or
just what the log printed. -/
def Entry.Harmless (entry : Entry) : Prop :=
  recordSeparator ∉ entry.message.toList ∧
    ∀ forged ∈ entry.forged?, entry.commit.statistics = some forged

instance (entry : Entry) : Decidable entry.Harmless :=
  inferInstanceAs (Decidable (recordSeparator ∉ entry.message.toList ∧
    ∀ forged ∈ entry.forged?, entry.commit.statistics = some forged))

theorem toldBy_told_iff : ToldBy entry entry.told ↔
    ∀ forged ∈ entry.forged?, entry.commit.statistics = some forged := by
  refine ⟨fun told forged found => ?_, fun harmless => ⟨?_, fun plain => ?_⟩⟩
  · have same := congrArg Commit.statistics told.fields
    simp only [Entry.told, Option.mem_def.mp found, Option.some_or] at same
    exact same.symm
  · have same : entry.forged?.or entry.commit.statistics = entry.commit.statistics := by
      cases found : entry.forged? with
      | none => rfl
      | some forged => rw [harmless forged found]; rfl
    rw [Entry.told, same]
  · rw [Entry.told_of_absent plain.2]

theorem undamaged_of_harmless (readable : ∀ entry ∈ entries, entry.Readable)
    (harmless : ∀ entry ∈ entries, entry.Harmless) : Undamaged entries := by
  have unbroken := fun entry member => (harmless entry member).1
  refine ⟨_, parse_page_of_unbroken readable unbroken, ?_⟩
  rw [List.forall₂_map_right_iff, List.forall₂_same]
  exact fun entry member => toldBy_told_iff.mpr (harmless entry member).2

theorem Undamaged.harmless (undamaged : Undamaged entries)
    (readable : ∀ entry ∈ entries, entry.Readable) : ∀ entry ∈ entries, entry.Harmless := by
  obtain ⟨commits, read, told⟩ := undamaged
  -- A broken record would make too many commits, so each entry is read from its own record.
  have unbroken : ∀ entry ∈ entries, recordSeparator ∉ entry.message.toList := by
    intro entry member broken
    have more := length_lt_countP_pieces member broken
    rw [← length_of_parse read, told.length_eq] at more
    exact Nat.lt_irrefl _ more
  rw [parse_page_of_unbroken readable unbroken] at read
  obtain rfl := Except.ok.inj read
  rw [List.forall₂_map_right_iff, List.forall₂_same] at told
  exact fun entry member => ⟨unbroken entry member, toldBy_told_iff.mp (told entry member)⟩

/-- A page is undamaged exactly when all its messages are harmless. Without record separators
every commit is read from its own entry alone. -/
theorem undamaged_iff (readable : ∀ entry ∈ entries, entry.Readable) :
    (Undamaged entries ↔ ∀ entry ∈ entries, entry.Harmless) ∧
    ((∀ entry ∈ entries, recordSeparator ∉ entry.message.toList) →
      parse (page entries) = .ok (entries.map Entry.told)) :=
  ⟨⟨fun undamaged => undamaged.harmless readable, undamaged_of_harmless readable⟩,
    parse_page_of_unbroken readable⟩

/-- A message with a field separator and with lines on both sides of it, and a plain one. -/
def crookedPage : List Entry :=
  [{ id := "c1", parents := ["c2"], author := "Jane Doe", email := "jane@example.com"
     seconds := 1700000000, decorations := ""
     message := "chore: cleanup\n\n 3 files changed\x1f or more\n", size := some ⟨1, some 1, none⟩ },
   { id := "c2", parents := [], author := "Jane Doe", email := "", seconds := 1700000000
     decorations := "", message := "init", size := none }]

theorem undamaged_crookedPage :
    (∀ entry ∈ crookedPage, entry.Readable) ∧ (∀ entry ∈ crookedPage, entry.Harmless) ∧
      Undamaged crookedPage ∧ parse (page crookedPage) = .ok (crookedPage.map Entry.told) := by
  have readable : ∀ entry ∈ crookedPage, entry.Readable := by decide
  have harmless : ∀ entry ∈ crookedPage, entry.Harmless := by decide
  obtain ⟨undamaged, read⟩ := undamaged_iff readable
  exact ⟨readable, harmless, undamaged.mpr harmless,
    read fun entry member => (harmless entry member).1⟩

/-- A message that ends its field early and forges the size of its change. -/
def forgedPage : List Entry :=
  [{ id := "c1", parents := ["c2"], author := "Jane Doe", email := "jane@example.com"
     seconds := 1700000000, decorations := ""
     message := "chore: cleanup\x1f\n 9 files changed\n", size := some ⟨1, some 1, none⟩ },
   { id := "c2", parents := [], author := "Jane Doe", email := "", seconds := 1700000000
     decorations := "", message := "init", size := none }]

/-- The forged size takes the place of the size that the log printed. -/
theorem not_undamaged_forgedPage :
    (∀ entry ∈ forgedPage, entry.Readable) ∧ ¬ Undamaged forgedPage := by
  have readable : ∀ entry ∈ forgedPage, entry.Readable := by decide
  have forges : ¬ ∀ entry ∈ forgedPage, entry.Harmless := by decide
  exact ⟨readable, fun undamaged => forges (undamaged.harmless readable)⟩

end CommitHistory.Log
