/-
# Lists of changed files and their grammar

A list of changed files is a sequence of fields, and the fields make up entries: a status and a
path, or a status, an old path and a new one. A list is read exactly if its fields fall into
entries, and else the first entry that cannot be read tells why. So a list that was written is
read back. If such a list is cut off, the entry at the cut is missed as soon as one of its
fields is gone; as long as there is something of each field, the last path is merely cut short.

## Main definitions

* `NameStatus.Spells`, `NameStatus.Lists` — the fields of one entry and of a whole list.
* `NameStatus.Broken` — fields that begin no entry, and why.
* `NameStatus.Entry`, `NameStatus.write` — a change as it is written, and a list of them.
* `NameStatus.cutOff`, `NameStatus.Refused` — a list that is cut off, and one that is not read.

## Main results

* `NameStatus.exists_groups` — how any fields fall into entries.
* `NameStatus.entries_eq_ok_iff`, `NameStatus.entries_eq_error_iff` — what is read and what not.
* `NameStatus.parse_write`, `NameStatus.parse_cutOff` — lists that were written, as a whole and
  cut off.
* `NameStatus.exists_flaw_of_take_lead`, `NameStatus.parse_take_path` — the entry at the cut.
* `NameStatus.parse_by_grammar`, `NameStatus.not_refused_of_cut` — all of it, and a cut that goes
  unnoticed.
-/

import CommitHistory.Change.NameStatus
import CommitHistory.Proofs.Text.Cutting
import Mathlib.Data.List.Forall2
import Mathlib.Tactic.MkIffOfInductiveProp

namespace CommitHistory.NameStatus

open Text

/-! ### The grammar -/

/-- A status tells a kind if it begins with the letter of the kind, behind blanks that do not
count. -/
def Tells (status : List Char) (kind : ChangeKind) : Prop :=
  (trim status).head? = some kind.letter

/-- Renames and copies move a file. -/
def Moves (kind : ChangeKind) : Prop := kind = .renamed ∨ kind = .copied

/-- The fields of one entry spell a change. -/
inductive Spells : List (List Char) → Change → Prop
  | stays {status path : List Char} {kind : ChangeKind} (tells : Tells status kind)
      (stays : ¬ Moves kind) : Spells [status, path] ⟨String.ofList path, none, kind⟩
  | moves {status oldPath path : List Char} {kind : ChangeKind} (tells : Tells status kind)
      (moves : Moves kind) :
      Spells [status, oldPath, path] ⟨String.ofList path, some (String.ofList oldPath), kind⟩

/-- Fields list changes if they fall into groups that spell the changes one by one. -/
def Lists (fields : List (List Char)) (changes : List Change) : Prop :=
  ∃ groups, fields = groups.flatten ∧ List.Forall₂ Spells groups changes

/-- Fields that begin no entry: the status tells no kind, or the fields end too early. -/
inductive Broken : List (List Char) → Flaw → Prop
  | status {status : List Char} {rest : List (List Char)} (none : ∀ kind, ¬ Tells status kind) :
      Broken (status :: rest) (.unknownStatus (String.ofList (trim status)))
  | path {status : List Char} {kind : ChangeKind} (tells : Tells status kind) :
      Broken [status] (.missingPath (String.ofList status))
  | newPath {status oldPath : List Char} {kind : ChangeKind} (tells : Tells status kind)
      (moves : Moves kind) : Broken [status, oldPath] (.missingNewPath (String.ofList status))

section Grammar

variable {status : List Char} {kind : ChangeKind} {change : Change} {changes : List Change}
  {group rest fields : List (List Char)} {groups : List (List (List Char))} {flaw : Flaw}

theorem hasOldPath_iff : kind.hasOldPath = true ↔ Moves kind := by
  cases kind <;> simp [ChangeKind.hasOldPath, Moves]

/-- Only the letter of a kind stands for it. -/
theorem ofLetter?_eq_some_iff {letter : Char} :
    ChangeKind.ofLetter? letter = some kind ↔ letter = kind.letter := by
  constructor
  · intro known
    unfold ChangeKind.ofLetter? at known
    split at known <;> cases known <;> rfl
  · rintro rfl
    exact ChangeKind.ofLetter?_letter kind

theorem kindOf_eq_ok_iff : kindOf (trim status) = .ok kind ↔ Tells status kind := by
  unfold kindOf ChangeKind.ofStatus? Tells
  cases (trim status).head? with
  | none => simp
  | some letter =>
    rw [Option.bind_some, Option.some_inj, ← ofLetter?_eq_some_iff]
    cases ChangeKind.ofLetter? letter <;> simp

theorem kindOf_of_not_tells (none : ∀ kind, ¬ Tells status kind) :
    kindOf (trim status) = .error (.unknownStatus (String.ofList (trim status))) := by
  cases found : kindOf (trim status) with
  | ok kind => exact absurd (kindOf_eq_ok_iff.mp found) (none kind)
  | error flaw =>
    unfold kindOf at found
    split at found
    · cases found
    · exact found.symm

/-! ### Reading by the grammar -/

/-- An entry is read whatever follows it. -/
theorem entries_append (spells : Spells group change) (rest : List (List Char)) :
    entries (group ++ rest) = (entries rest).map (change :: ·) := by
  cases spells with
  | stays tells stays =>
    have single := mt hasOldPath_iff.mp stays
    cases rest <;> simp [entries, kindOf_eq_ok_iff.mpr tells, single]
  | moves tells moves =>
    simp [entries, kindOf_eq_ok_iff.mpr tells, hasOldPath_iff.mpr moves]

/-- So are any number of entries. -/
theorem entries_flatten_append (spells : List.Forall₂ Spells groups changes)
    (rest : List (List Char)) :
    entries (groups.flatten ++ rest) = (entries rest).map (changes ++ ·) := by
  induction spells with
  | nil =>
    rw [List.flatten_nil, List.nil_append]
    cases entries rest <;> rfl
  | cons first _ ih =>
    rw [List.flatten_cons, List.append_assoc, entries_append first, ih]
    cases entries rest <;> rfl

theorem entries_of_broken (broken : Broken rest flaw) : entries rest = .error flaw := by
  cases broken with
  | status none => simp [entries, kindOf_of_not_tells none]
  | path tells => simp [entries, kindOf_eq_ok_iff.mpr tells]
  | newPath tells moves =>
    simp [entries, kindOf_eq_ok_iff.mpr tells, hasOldPath_iff.mpr moves]

/-- Fields fall into entries, up to their end or up to fields that begin none. -/
theorem exists_groups (fields : List (List Char)) :
    ∃ groups changes rest, fields = groups.flatten ++ rest ∧ List.Forall₂ Spells groups changes ∧
      (rest = [] ∨ ∃ flaw, Broken rest flaw) := by
  -- Each case of the reader is the end, a way in which an entry is broken, or an entry and the rest.
  induction fields using entries.induct with
  | case1 => exact ⟨[], [], [], rfl, .nil, Or.inl rfl⟩
  | case2 status rest flaw unknown =>
    have none (kind : ChangeKind) (tells : Tells status kind) : False := by
      rw [kindOf_eq_ok_iff.mpr tells] at unknown
      cases unknown
    exact ⟨[], [], _, rfl, .nil, Or.inr ⟨_, .status none⟩⟩
  | case3 status kind known =>
    exact ⟨[], [], _, rfl, .nil, Or.inr ⟨_, .path (kindOf_eq_ok_iff.mp known)⟩⟩
  | case4 status kind oldPath known moves =>
    exact ⟨[], [], _, rfl, .nil,
      Or.inr ⟨_, .newPath (kindOf_eq_ok_iff.mp known) (hasOldPath_iff.mp moves)⟩⟩
  | case5 status kind oldPath known moves path rest ih =>
    obtain ⟨groups, changes, left, rfl, spells, ends⟩ := ih
    exact ⟨_ :: groups, _ :: changes, left, rfl,
      .cons (.moves (kindOf_eq_ok_iff.mp known) (hasOldPath_iff.mp moves)) spells, ends⟩
  | case6 status kind path rest known stays ih =>
    obtain ⟨groups, changes, left, rfl, spells, ends⟩ := ih
    exact ⟨_ :: groups, _ :: changes, left, rfl,
      .cons (.stays (kindOf_eq_ok_iff.mp known) (mt hasOldPath_iff.mpr stays)) spells, ends⟩

/-- A list is read if and only if its fields list changes, and the changes are these. -/
theorem entries_eq_ok_iff : entries fields = .ok changes ↔ Lists fields changes := by
  constructor
  · intro read
    obtain ⟨groups, listed, rest, rfl, spells, rfl | ⟨flaw, broken⟩⟩ := exists_groups fields
    · rw [entries_flatten_append spells] at read
      cases read
      exact ⟨groups, List.append_nil _, by simpa using spells⟩
    · rw [entries_flatten_append spells, entries_of_broken broken] at read
      cases read
  · rintro ⟨groups, rfl, spells⟩
    have read := entries_flatten_append spells []
    rw [List.append_nil] at read
    rw [read]
    simp [entries, Except.map]

/-- What is wrong with a list is wrong with the first fields that begin no entry. -/
theorem entries_eq_error_iff :
    entries fields = .error flaw ↔
      ∃ groups changes rest, fields = groups.flatten ++ rest ∧
        List.Forall₂ Spells groups changes ∧ Broken rest flaw := by
  constructor
  · intro refused
    obtain ⟨groups, changes, rest, rfl, spells, rfl | ⟨flaw', broken⟩⟩ := exists_groups fields
    · rw [entries_flatten_append spells] at refused
      cases refused
    · rw [entries_flatten_append spells, entries_of_broken broken] at refused
      cases refused
      exact ⟨groups, changes, rest, rfl, spells, broken⟩
  · rintro ⟨groups, changes, rest, rfl, spells, broken⟩
    rw [entries_flatten_append spells, entries_of_broken broken]
    rfl

end Grammar

/-! ### The fields of a text -/

/-- A text that can be a field: there is something of it, and no separator is in it. -/
def Clean (text : List Char) : Prop := text ≠ [] ∧ '\x00' ∉ text

variable {field : List Char}

theorem fields_append (clean : Clean field) (rest : List Char) :
    fields (field ++ '\x00' :: rest) = field :: fields rest := by
  rw [fields, splitOn_append, splitOn_of_absent clean.2]
  simp [fields, clean.1]

theorem fields_of_clean (clean : Clean field) : fields field = [field] := by
  rw [fields, splitOn_of_absent clean.2]
  simp [clean.1]

/-- Fields as they stand in a list, each with its separator. -/
def ended (parts : List (List Char)) : List Char := parts.flatMap (· ++ ['\x00'])

theorem ended_append (ahead rest : List (List Char)) :
    ended (ahead ++ rest) = ended ahead ++ ended rest := List.flatMap_append

theorem ended_cons (part : List Char) (rest : List (List Char)) :
    ended (part :: rest) = part ++ '\x00' :: ended rest := by
  simp [ended]

theorem fields_ended_append {parts : List (List Char)} (clean : ∀ part ∈ parts, Clean part)
    (rest : List Char) : fields (ended parts ++ rest) = parts ++ fields rest := by
  induction parts with
  | nil => rfl
  | cons part parts ih =>
    obtain ⟨first, clean⟩ := List.forall_mem_cons.mp clean
    rw [ended_cons, List.append_assoc, List.cons_append, fields_append first, ih clean,
      List.cons_append]

theorem Clean.take (clean : Clean field) {m : Nat} (some : 0 < m) : Clean (field.take m) := by
  refine ⟨?_, fun member => clean.2 (List.mem_of_mem_take member)⟩
  rw [ne_eq, List.take_eq_nil_iff, not_or]
  exact ⟨Nat.ne_of_gt some, clean.1⟩

/-- A field that is cut off, or only loses its separator, is one field still. -/
theorem fields_take (clean : Clean field) {m : Nat} (some : 0 < m) (le : m ≤ field.length + 1) :
    fields ((field ++ ['\x00']).take m) = [field.take m] := by
  by_cases inside : m ≤ field.length
  · rw [List.take_append_of_le_length inside, fields_of_clean (clean.take some)]
  · -- Nothing is lost, not even the separator.
    obtain rfl : m = field.length + 1 := by omega
    rw [List.take_of_length_le (by simp), List.take_of_length_le (Nat.le_succ _),
      fields_append clean]
    rfl

/-- Of fields that are cut off, the ones before the cut are whole. -/
theorem fields_take_ended {ahead : List (List Char)} (whole : ∀ part ∈ ahead, Clean part)
    (clean : Clean field) (rest : List (List Char)) {m : Nat} (some : 0 < m)
    (le : m ≤ field.length + 1) :
    fields ((ended (ahead ++ field :: rest)).take ((ended ahead).length + m)) =
      ahead ++ [field.take m] := by
  have inside : m ≤ (field ++ ['\x00']).length := by simpa using le
  rw [ended_append, List.take_length_add_append, fields_ended_append whole, ended_cons,
    List.append_cons, List.take_append_of_le_length inside, fields_take clean some le]

/-! ### Lists that were written -/

/-- A change as it is written. Something may follow the letter of its kind, as the degree of
similarity does. -/
structure Entry where
  change : Change
  degree : List Char

namespace Entry

/-- The status field. -/
def status (entry : Entry) : List Char := entry.change.kind.letter :: entry.degree

/-- The fields before the last one: the status, and the old path if there is one. -/
def lead (entry : Entry) : List (List Char) :=
  entry.status :: (entry.change.oldPath.map String.toList).toList

/-- The fields of an entry; the last one is the path. -/
def fields (entry : Entry) : List (List Char) := entry.lead ++ [entry.change.path.toList]

/-- The entry as it stands in a list. -/
def text (entry : Entry) : List Char := ended entry.fields

/-- The separator is in none of the texts, no path is empty, and there is an old path exactly if the
file was moved. -/
@[mk_iff]
structure Sound (entry : Entry) : Prop where
  degree : '\x00' ∉ entry.degree
  path : Clean entry.change.path.toList
  oldPath : ∀ oldPath ∈ entry.change.oldPath, Clean oldPath.toList
  moved : entry.change.oldPath.isSome ↔ Moves entry.change.kind

variable {entry : Entry}

/-- What is left of a status still tells the kind. -/
theorem tells_take (entry : Entry) {m : Nat} (some : 0 < m) :
    Tells (entry.status.take m) entry.change.kind := by
  have solid : isBlank entry.change.kind.letter = false := by
    cases entry.change.kind <;> decide
  obtain ⟨k, rfl⟩ := Nat.exists_eq_add_of_lt some
  rw [Nat.zero_add, status, List.take_succ_cons]
  exact head?_trim_cons solid _

theorem tells (entry : Entry) : Tells entry.status entry.change.kind := by
  have whole := entry.tells_take (Nat.succ_pos entry.degree.length)
  rwa [List.take_of_length_le (by simp [status])] at whole

namespace Sound

theorem clean_status (sound : entry.Sound) : Clean entry.status := by
  refine ⟨List.cons_ne_nil _ _, fun member => ?_⟩
  rcases List.mem_cons.mp member with same | member
  · -- No letter of a kind is the separator.
    cases kind : entry.change.kind <;> rw [kind] at same <;> cases same
  · exact sound.degree member

theorem clean_lead (sound : entry.Sound) : ∀ part ∈ entry.lead, Clean part := by
  refine List.forall_mem_cons.mpr ⟨sound.clean_status, fun part member => ?_⟩
  obtain ⟨oldPath, here, rfl⟩ := Option.map_eq_some_iff.mp (Option.mem_toList.mp member)
  exact sound.oldPath oldPath here

theorem clean_fields (sound : entry.Sound) : ∀ part ∈ entry.fields, Clean part :=
  List.forall_mem_append.mpr ⟨sound.clean_lead, List.forall_mem_singleton.mpr sound.path⟩

/-- Whatever the last path is, the fields spell a change of that path. -/
theorem spells (sound : entry.Sound) (path : List Char) :
    Spells (entry.lead ++ [path]) { entry.change with path := String.ofList path } := by
  cases old : entry.change.oldPath with
  | none =>
    have stays : ¬ Moves entry.change.kind := by simp [← sound.moved, old]
    have spelled : Spells [entry.status, path] _ := .stays entry.tells stays
    simpa [lead, old] using spelled
  | some oldPath =>
    have moves : Moves entry.change.kind := by simp [← sound.moved, old]
    have spelled : Spells [entry.status, oldPath.toList, path] _ := .moves entry.tells moves
    simpa [lead, old] using spelled

theorem spells_fields (sound : entry.Sound) : Spells entry.fields entry.change := by
  simpa [Entry.fields] using sound.spells entry.change.path.toList

end Sound

end Entry

/-- A list of changed files as it is written. -/
def write (entries : List Entry) : List Char := entries.flatMap Entry.text

/-- A list that is cut off in one of its entries, behind some of its characters. -/
def cutOff (before : List Entry) (entry : Entry) (after : List Entry) (m : Nat) : List Char :=
  (write (before ++ entry :: after)).take ((write before).length + m)

section Written

variable {before after listed : List Entry} {entry : Entry} {m : Nat}

theorem write_eq (listed : List Entry) : write listed = ended (listed.flatMap Entry.fields) :=
  (List.flatMap_assoc ..).symm

theorem fields_write_append (sound : ∀ entry ∈ listed, entry.Sound) (rest : List Char) :
    fields (write listed ++ rest) = listed.flatMap Entry.fields ++ fields rest := by
  rw [write_eq]
  refine fields_ended_append (fun part member => ?_) rest
  obtain ⟨entry, here, member⟩ := List.mem_flatMap.mp member
  exact (sound entry here).clean_fields part member

/-- Entries that were written are read, whatever follows them. -/
theorem parse_write_append (sound : ∀ entry ∈ listed, entry.Sound) (rest : List Char) :
    parse (write listed ++ rest) = (parse rest).map (listed.map Entry.change ++ ·) := by
  have spells : List.Forall₂ Spells (listed.map Entry.fields) (listed.map Entry.change) := by
    rw [List.forall₂_map_left_iff, List.forall₂_map_right_iff, List.forall₂_same]
    exact fun entry here => (sound entry here).spells_fields
  rw [parse, fields_write_append sound, List.flatMap_def, entries_flatten_append spells, parse]

/-- A list that was written is read back. -/
theorem parse_write (sound : ∀ entry ∈ listed, entry.Sound) :
    parse (write listed) = .ok (listed.map Entry.change) := by
  have read := parse_write_append sound []
  rw [List.append_nil] at read
  rw [read]
  simp [parse, fields, splitOn, entries, Except.map]

/-- The entries before a cut are read, and then what is left of the entry at the cut. -/
theorem parse_cutOff (sound : ∀ entry ∈ before, entry.Sound) (le : m ≤ entry.text.length) :
    parse (cutOff before entry after m) =
      (parse (entry.text.take m)).map (before.map Entry.change ++ ·) := by
  -- The entries after the cut are lost as a whole.
  have written : write (before ++ entry :: after) = write before ++ (entry.text ++ write after) :=
    List.flatMap_append
  rw [cutOff, written, List.take_length_add_append, List.take_append_of_le_length le,
    parse_write_append sound]

theorem length_text (entry : Entry) :
    entry.text.length = (ended entry.lead).length + (entry.change.path.toList.length + 1) := by
  simp [Entry.text, Entry.fields, ended]

/-- If the cut is in the status, or right behind it, then the path is missed. -/
theorem parse_take_status (sound : entry.Sound) (some : 0 < m) (le : m ≤ entry.status.length + 1) :
    parse (entry.text.take m) = .error (.missingPath (String.ofList (entry.status.take m))) := by
  have split : fields (entry.text.take m) = [entry.status.take m] := by
    have cut : fields (entry.text.take (0 + m)) = [] ++ [entry.status.take m] :=
      fields_take_ended (List.forall_mem_nil _) sound.clean_status _ some le
    rwa [Nat.zero_add] at cut
  rw [parse, split, entries_of_broken (.path (entry.tells_take some))]

/-- If the cut is in the old path, or right behind it, then the new path is missed. -/
theorem parse_take_oldPath (sound : entry.Sound) {oldPath : String}
    (old : entry.change.oldPath = some oldPath) (some : 0 < m)
    (le : m ≤ oldPath.toList.length + 1) :
    parse (entry.text.take (entry.status.length + 1 + m)) =
      .error (.missingNewPath (String.ofList entry.status)) := by
  have moves : Moves entry.change.kind := by simp [← sound.moved, old]
  have whole : ∀ part ∈ [entry.status], Clean part := by simpa using sound.clean_status
  have split : fields (entry.text.take (entry.status.length + 1 + m)) =
      [entry.status, oldPath.toList.take m] := by
    have cut := fields_take_ended whole (sound.oldPath oldPath old) [entry.change.path.toList]
      some le
    simpa [Entry.text, Entry.fields, Entry.lead, old, ended] using cut
  rw [parse, split, entries_of_broken (.newPath entry.tells moves)]

/-- An entry without its last path is missed one way or another. -/
theorem exists_flaw_of_take_lead (sound : entry.Sound) (some : 0 < m)
    (le : m ≤ (ended entry.lead).length) : ∃ flaw, parse (entry.text.take m) = .error flaw := by
  by_cases first : m ≤ entry.status.length + 1
  · exact ⟨_, parse_take_status sound some first⟩
  · -- Behind the status there is something before the path only if the file was moved.
    obtain ⟨k, rfl⟩ := Nat.exists_eq_add_of_lt (Nat.lt_of_not_le first)
    cases old : entry.change.oldPath with
    | none =>
      have length : (ended entry.lead).length = entry.status.length + 1 := by
        simp [Entry.lead, old, ended]
      omega
    | some oldPath =>
      have length : (ended entry.lead).length =
          entry.status.length + 1 + (oldPath.toList.length + 1) := by
        simp [Entry.lead, old, ended, Nat.add_assoc, Nat.add_comm 1]
      exact ⟨_, parse_take_oldPath sound old (Nat.succ_pos k) (by omega)⟩

/-- If there is something of the last path, the entry is read with what there is. -/
theorem parse_take_path (sound : entry.Sound) (some : 0 < m)
    (le : m ≤ entry.change.path.toList.length + 1) :
    parse (entry.text.take ((ended entry.lead).length + m)) =
      .ok [{ entry.change with path := String.ofList (entry.change.path.toList.take m) }] := by
  have read := entries_append (sound.spells (entry.change.path.toList.take m)) []
  rw [parse, Entry.text, Entry.fields, fields_take_ended sound.clean_lead sound.path [] some le,
    ← List.append_nil (entry.lead ++ _), read]
  rfl

end Written

/-! ### The reader as a whole -/

/-- A list is refused as a whole: what it says is unreadable, and none of it is returned. -/
def Refused (text : List Char) : Prop :=
  ∃ message, (parse text).mapError Flaw.fault = .error (.unreadable message "name-status")

theorem refused_of_error {text : List Char} {flaw : Flaw} (refused : parse text = .error flaw) :
    Refused text := ⟨flaw.message, by rw [refused]; rfl⟩

/-- Exactly what the grammar allows is read, as the grammar says, and anything else is refused. So
what was written is read back. If it is cut off in an entry, it is refused as long as nothing of the
last path is there, and else it is read with as much of that path as is there. -/
theorem parse_by_grammar :
    (∀ text changes, parse text = .ok changes ↔ Lists (fields text) changes) ∧
    (∀ text, (∀ changes, ¬ Lists (fields text) changes) → Refused text) ∧
    (∀ listed : List Entry, (∀ entry ∈ listed, entry.Sound) →
      parse (write listed) = .ok (listed.map Entry.change)) ∧
    (∀ before entry after m, (∀ entry ∈ before, entry.Sound) → entry.Sound → 0 < m →
      m ≤ (ended entry.lead).length → Refused (cutOff before entry after m)) ∧
    (∀ before entry after m, (∀ entry ∈ before, entry.Sound) → entry.Sound → 0 < m →
      m ≤ entry.change.path.toList.length + 1 →
      parse (cutOff before entry after ((ended entry.lead).length + m)) =
        .ok (before.map Entry.change ++
          [{ entry.change with path := String.ofList (entry.change.path.toList.take m) }])) := by
  refine ⟨fun text changes => entries_eq_ok_iff, fun text none => ?_, fun listed => parse_write,
    fun before entry after m written sound some le => ?_,
    fun before entry after m written sound some le => ?_⟩
  · cases read : parse text with
    | ok changes => exact absurd (entries_eq_ok_iff.mp read) (none changes)
    | error flaw => exact refused_of_error read
  · obtain ⟨flaw, missed⟩ := exists_flaw_of_take_lead sound some le
    have inside : m ≤ entry.text.length := by
      rw [length_text]
      omega
    have cut : parse (cutOff before entry after m) = .error flaw := by
      rw [parse_cutOff written inside, missed]
      rfl
    exact refused_of_error cut
  · have inside : (ended entry.lead).length + m ≤ entry.text.length := by
      rw [length_text]
      omega
    rw [parse_cutOff written inside, parse_take_path sound some le]
    rfl

/-- A new file whose name is the letter of a status. -/
def sampleAdded : Entry := ⟨⟨"M", none, .added⟩, []⟩

/-- A moved file whose old name is one. -/
def sampleRenamed : Entry := ⟨⟨"src/T", some "R100", .renamed⟩, ['0', '8', '7']⟩

theorem parse_by_grammar_sampleRenamed :
    (∀ entry ∈ [sampleAdded, sampleRenamed], entry.Sound) ∧
    write [sampleAdded, sampleRenamed] = "A\x00M\x00R087\x00R100\x00src/T\x00".toList ∧
    parse (write [sampleAdded, sampleRenamed]) =
      .ok [⟨"M", none, .added⟩, ⟨"src/T", some "R100", .renamed⟩] ∧
    Refused (cutOff [sampleAdded] sampleRenamed [] 10) ∧
    parse (cutOff [sampleAdded] sampleRenamed [] 13) =
      .ok [⟨"M", none, .added⟩, ⟨"src", some "R100", .renamed⟩] := by
  have sound : ∀ entry ∈ [sampleAdded, sampleRenamed], entry.Sound := by
    simp [Entry.sound_iff, Clean, Moves, sampleAdded, sampleRenamed]
  obtain ⟨-, -, whole, early, late⟩ := parse_by_grammar
  have first : ∀ entry ∈ [sampleAdded], entry.Sound := fun entry here =>
    sound entry (List.mem_cons.mpr (Or.inl (List.mem_singleton.mp here)))
  have second : sampleRenamed.Sound := sound _ (by simp)
  exact ⟨sound, by decide, whole _ sound,
    early _ _ _ 10 first second (by decide) (by decide),
    late _ _ _ 3 first second (by decide) (by decide)⟩

/-- A cut in the last path of an entry goes unnoticed: the path is merely shorter. -/
theorem not_refused_of_cut :
    ¬ ∀ before entry after m, (∀ written ∈ before ++ entry :: after, written.Sound) → 0 < m →
      m < entry.text.length → Refused (cutOff before entry after m) := by
  intro refused
  have sound : ∀ entry ∈ [sampleAdded] ++ sampleRenamed :: [], entry.Sound := by
    simp [Entry.sound_iff, Clean, Moves, sampleAdded, sampleRenamed]
  obtain ⟨message, error⟩ := refused [sampleAdded] sampleRenamed [] 13 sound (by decide) (by decide)
  have read : parse (cutOff [sampleAdded] sampleRenamed [] 13) =
      .ok [⟨"M", none, .added⟩, ⟨"src", some "R100", .renamed⟩] := by decide
  rw [read] at error
  cases error

end CommitHistory.NameStatus
