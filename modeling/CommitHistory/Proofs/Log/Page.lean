/-
# Pages of the log that are read as they were written

The log writes each commit by one format and may put a size line behind it. A commit has fields
that its repository makes up, such as the identifier and the time, and a message that anybody may
write. If no field holds a separator, reading a page gives back each commit with every field,
whatever the message looks like otherwise.

## Main definitions

* `Log.Entry`, `Log.Entry.render`, `Log.page` — a commit as the log knows it, and how it is
  written.
* `Log.Entry.commit` — the commit that an entry stands for.

## Main results

* `Log.parseRecord_record` — what is read of one entry, for every message.
* `Log.parse_page` — reading undoes writing.
-/

import CommitHistory.Log.Record
import CommitHistory.Proofs.Log.SizeLine

namespace CommitHistory.Log

open Text

/-- A commit as the log knows it. -/
structure Entry where
  id : String
  parents : List String
  author : String
  email : String
  seconds : Int
  decorations : String
  message : String
  size : Option Shortstat.Line
deriving DecidableEq, Repr

namespace Entry

/-- What the log writes for a format. -/
def fill (entry : Entry) : List Char → List Char
  | '%' :: 'x' :: '1' :: 'e' :: rest => '\x1e' :: entry.fill rest
  | '%' :: 'x' :: '1' :: 'f' :: rest => '\x1f' :: entry.fill rest
  | '%' :: 'H' :: rest => entry.id.toList ++ entry.fill rest
  | '%' :: 'P' :: rest => [' '].intercalate (entry.parents.map String.toList) ++ entry.fill rest
  | '%' :: 'a' :: 'N' :: rest => entry.author.toList ++ entry.fill rest
  | '%' :: 'a' :: 'E' :: rest => entry.email.toList ++ entry.fill rest
  | '%' :: 'a' :: 't' :: rest => Numeral.ofInt entry.seconds ++ entry.fill rest
  | '%' :: 'D' :: rest => entry.decorations.toList ++ entry.fill rest
  | '%' :: 'B' :: rest => entry.message.toList ++ entry.fill rest
  | c :: rest => c :: entry.fill rest
  | [] => []

/-- What the log writes after the line of the message: a size line under an empty line, if there
is one. -/
def trailer (entry : Entry) : List Char :=
  match entry.size with
  | none => []
  | some line => '\n' :: (line.render ++ ['\n'])

/-- An entry as the log writes it. -/
def render (entry : Entry) : List Char := entry.fill format.toList ++ '\n' :: entry.trailer

/-- The commit that an entry stands for. An empty address is none. -/
def commit (entry : Entry) : Commit where
  id := entry.id
  parents := entry.parents
  message := entry.message
  author := entry.author
  email := if entry.email = "" then none else some entry.email
  time := ⟨entry.seconds, 0⟩
  statistics := entry.size.map Shortstat.Line.statistics
  labels := Decoration.parse entry.decorations.toList

end Entry

/-- A page of the log. -/
def page (entries : List Entry) : List Char := entries.flatMap Entry.render

/-! ### Entries that can be read -/

/-- A text with something in it and no blank. -/
def Solid (text : String) : Prop := text ≠ "" ∧ ∀ c ∈ text.toList, isBlank c = false

instance (text : String) : Decidable (Solid text) :=
  have : Decidable (∀ c ∈ text.toList, isBlank c = false) := List.decidableBAll _ _
  inferInstanceAs (Decidable (text ≠ "" ∧ ∀ c ∈ text.toList, isBlank c = false))

/-- A text without blanks at its ends. -/
def Trimmed (text : String) : Prop := trim text.toList = text.toList

instance (text : String) : Decidable (Trimmed text) :=
  inferInstanceAs (Decidable (trim text.toList = text.toList))

/-- A text without separators. -/
def Plain (text : String) : Prop := recordSeparator ∉ text.toList ∧ fieldSeparator ∉ text.toList

instance (text : String) : Decidable (Plain text) :=
  inferInstanceAs (Decidable (recordSeparator ∉ text.toList ∧ fieldSeparator ∉ text.toList))

namespace Entry

/-- All that a repository makes up is as the log writes it. Nothing is said of the message. -/
@[mk_iff]
structure Readable (entry : Entry) : Prop where
  id : Solid entry.id
  parents : ∀ parent ∈ entry.parents, Solid parent
  author : Trimmed entry.author
  email : Trimmed entry.email
  time : Timestamp.firstSecond ≤ entry.seconds ∧ entry.seconds ≤ Timestamp.lastSecond
  size : ∀ line ∈ entry.size, line.Bounded
  plain : ∀ text ∈ entry.id :: entry.author :: entry.email :: entry.decorations :: entry.parents,
    Plain text

instance (entry : Entry) : Decidable entry.Readable := decidable_of_iff _ entry.readable_iff.symm

/-- The message is plain, too, and has no blanks at its ends. -/
@[mk_iff]
structure WellFormed (entry : Entry) : Prop extends entry.Readable where
  trimmed : Trimmed entry.message
  spoken : Plain entry.message

instance (entry : Entry) : Decidable entry.WellFormed :=
  decidable_of_iff _ entry.wellFormed_iff.symm

end Entry

variable {entry : Entry} {entries : List Entry}

/-! ### The record of an entry -/

namespace Entry

/-- The fields before the message. -/
def head (entry : Entry) : List (List Char) :=
  [entry.id.toList, [' '].intercalate (entry.parents.map String.toList), entry.author.toList,
    entry.email.toList, Numeral.ofInt entry.seconds, entry.decorations.toList]

/-- What the log writes after the message. -/
def after (entry : Entry) : List Char := fieldSeparator :: '\n' :: entry.trailer

/-- What the log writes after the separator of a record. -/
def record (entry : Entry) : List Char :=
  entry.head.flatMap (· ++ [fieldSeparator]) ++ (entry.message.toList ++ entry.after)

theorem render_eq (entry : Entry) : entry.render = recordSeparator :: entry.record := by
  have filled : entry.fill format.toList = recordSeparator ::
      (entry.head.flatMap (· ++ [fieldSeparator]) ++ (entry.message.toList ++ [fieldSeparator])) := by
    simp [head, recordSeparator, fieldSeparator, format, fill]
  rw [render, filled, record, after]
  simp

end Entry

theorem page_eq (entries : List Entry) :
    page entries = (entries.map Entry.record).flatMap (recordSeparator :: ·) := by
  have rendered : Entry.render = fun entry => recordSeparator :: entry.record :=
    funext Entry.render_eq
  rw [page, rendered, List.flatMap_map]

/-- No field before the message has a separator. -/
theorem Entry.Readable.not_mem_head (readable : entry.Readable) {separator : Char}
    (known : separator = recordSeparator ∨ separator = fieldSeparator) :
    ∀ field ∈ entry.head, separator ∉ field := by
  have other : separator ≠ ' ' := by rcases known with rfl | rfl <;> decide
  have plain {text : String} (member : text ∈ entry.id :: entry.author :: entry.email ::
      entry.decorations :: entry.parents) : separator ∉ text.toList := by
    rcases known with rfl | rfl
    · exact (readable.plain text member).1
    · exact (readable.plain text member).2
  have seconds : separator ∉ Numeral.ofInt entry.seconds := by
    intro member
    rcases known with rfl | rfl <;> rcases Numeral.mem_ofInt member with same | digit
    all_goals first | exact absurd same (by decide) | exact absurd digit (by decide)
  have parents : separator ∉ [' '].intercalate (entry.parents.map String.toList) := by
    intro member
    obtain ⟨piece, joined, member⟩ := exists_mem_of_mem_intercalate member other
    obtain ⟨parent, listed, rfl⟩ := List.mem_map.mp joined
    exact plain (by simp [listed]) member
  simp only [Entry.head, List.forall_mem_cons, List.not_mem_nil, IsEmpty.forall_iff, implies_true,
    and_true]
  exact ⟨plain (by simp), parents, plain (by simp), plain (by simp), seconds, plain (by simp)⟩

/-! ### What follows the message -/

/-- The lines of a text that a line feed ends. -/
def closedLines (text : List Char) : List (List Char) := ((splitOn '\n' text).dropLast).map dropReturn

theorem lines_cons_newline (rest : List Char) : lines ('\n' :: rest) = [] :: lines rest :=
  lines_append [] rest

/-- The size line is found if there is one. -/
theorem findSome?_trailer (bounded : ∀ line ∈ entry.size, line.Bounded) :
    (lines entry.trailer).findSome? Shortstat.parse? = entry.commit.statistics := by
  cases size : entry.size with
  | none => simp [Entry.trailer, Entry.commit, size]
  | some line =>
    have unbroken : '\n' ∉ line.render := fun member => by
      rcases Shortstat.mem_render member with digit | word
      · exact absurd digit (by decide)
      · exact absurd word (by decide)
    have kept : dropReturn line.render = line.render := by
      rw [dropReturn, if_neg]
      intro last
      rcases Shortstat.mem_render (List.mem_of_getLast? last) with digit | word
      · exact absurd digit (by decide)
      · exact absurd word (by decide)
    have blank : Shortstat.parse? [] = none := rfl
    rw [Entry.trailer, size, lines_cons_newline, lines_append, splitOn_of_absent unbroken,
      lines_nil]
    simp [blank, kept, Shortstat.parse?_render (bounded line size), Entry.commit, size]

/-- Closed lines of a message are searched, too, where they follow a field separator. -/
theorem findSome?_after (bounded : ∀ line ∈ entry.size, line.Bounded) (text : List Char) :
    (lines (text ++ entry.after)).findSome? Shortstat.parse? =
      ((closedLines text).findSome? Shortstat.parse?).or entry.commit.statistics := by
  have foreign : Shortstat.Foreign fieldSeparator := ⟨by decide, by decide, by decide⟩
  have absent : '\n' ∉ [fieldSeparator] := by decide
  obtain ⟨last, cut⟩ := exists_splitOn_append text absent
  -- The last line of the text shares a line with the separator, which makes it unreadable.
  have unread : Shortstat.parse? (dropReturn (last ++ [fieldSeparator])) = none := by
    have kept : dropReturn (last ++ [fieldSeparator]) = last ++ [fieldSeparator] := by
      simp [dropReturn, fieldSeparator]
    rw [kept]
    exact Shortstat.parse?_eq_none_of_mem foreign (by simp)
  have joined : text ++ entry.after = (text ++ [fieldSeparator]) ++ '\n' :: entry.trailer := by
    simp [Entry.after]
  rw [joined, lines_append, cut, List.findSome?_append, findSome?_trailer bounded, closedLines]
  simp [unread]

/-! ### What is read of an entry -/

namespace Entry

/-- The message up to its first field separator. -/
def heard (entry : Entry) : List Char :=
  ((cutAt fieldSeparator entry.message.toList).map Prod.fst).getD entry.message.toList

/-- The size line that a message forges: a line of its own behind a field separator. -/
def forged? (entry : Entry) : Option Statistics :=
  (cutAt fieldSeparator entry.message.toList).bind fun parts =>
    (closedLines parts.2).findSome? Shortstat.parse?

/-- What is read of an entry, whatever its message is. -/
def told (entry : Entry) : Commit :=
  { entry.commit with
    message := String.ofList (trim entry.heard)
    statistics := entry.forged?.or entry.commit.statistics }

/-- A message without field separators is heard to its end and forges nothing. -/
theorem told_of_absent (absent : fieldSeparator ∉ entry.message.toList) :
    entry.told = { entry.commit with message := String.ofList (trim entry.message.toList) } := by
  simp [told, heard, forged?, cutAt_of_absent absent]

end Entry

theorem timeOf_ofInt {seconds : Int}
    (known : Timestamp.firstSecond ≤ seconds ∧ seconds ≤ Timestamp.lastSecond) :
    timeOf (Numeral.ofInt seconds) = .ok ⟨seconds, 0⟩ := by
  have trimmed : trim (Numeral.ofInt seconds) = Numeral.ofInt seconds :=
    trim_eq_self fun _ => Numeral.isBlank_of_mem_ofInt
  have read : Numeral.int64? (Numeral.ofInt seconds) = some seconds := by
    have low : -(Numeral.maxInt + 1 : Nat) ≤ Timestamp.firstSecond := by decide
    have high : Timestamp.lastSecond ≤ Numeral.maxInt := by decide
    exact Numeral.int64?_ofInt (Int.le_trans low known.1) (Int.le_trans known.2 high)
  rw [timeOf, trimmed, read]
  simp [Timestamp.ofSeconds?, known]

theorem emailOf_trimmed {email : String} (trimmed : Trimmed email) :
    emailOf email.toList = if email = "" then none else some email := by
  rw [emailOf, trimmed]
  by_cases empty : email = ""
  · simp [empty]
  · simp [empty, String.toList_eq_nil_iff]

theorem words_parents (solid : ∀ parent ∈ entry.parents, Solid parent) :
    (words ([' '].intercalate (entry.parents.map String.toList))).map String.ofList =
      entry.parents := by
  rw [words_intercalate]
  · simp
  · intro piece joined
    obtain ⟨parent, listed, rfl⟩ := List.mem_map.mp joined
    obtain ⟨some, solid⟩ := solid parent listed
    exact ⟨by simpa using some, solid⟩

/-- The fields before the message are read as they were written. -/
theorem parseRecord_of_fields (readable : entry.Readable) {record message after : List Char}
    (cut : splitAtMost fieldSeparator (fieldCount - 1) record = entry.head ++ [message, after]) :
    parseRecord record = .ok { entry.commit with
      message := String.ofList (trim message)
      statistics := (lines after).findSome? Shortstat.parse? } := by
  have id : trim entry.id.toList = entry.id.toList := trim_eq_self readable.id.2
  rw [parseRecord, cut]
  simp only [Entry.head, List.cons_append, List.nil_append]
  rw [timeOf_ofInt readable.time, id, readable.author, emailOf_trimmed readable.email,
    words_parents readable.parents]
  simp [Except.map, Entry.commit]

/-- What is read of an entry, for every message. -/
theorem parseRecord_record (readable : entry.Readable) :
    parseRecord entry.record = .ok entry.told := by
  have absent := readable.not_mem_head (Or.inr rfl)
  have cut : splitAtMost fieldSeparator (fieldCount - 1) entry.record =
      entry.head ++ splitAtMost fieldSeparator 1 (entry.message.toList ++ entry.after) :=
    splitAtMost_flatMap absent 1 _
  rw [Entry.after, splitAtMost_one_append] at cut
  rw [Entry.told, Entry.heard, Entry.forged?]
  -- The message is heard to its end, or it is cut at its first field separator.
  cases found : cutAt fieldSeparator entry.message.toList with
  | none =>
    rw [found] at cut
    have blank : Shortstat.parse? [] = none := rfl
    rw [parseRecord_of_fields readable cut, lines_cons_newline]
    simp [blank, findSome?_trailer readable.size]
  | some parts =>
    rw [found] at cut
    rw [parseRecord_of_fields readable cut, ← Entry.after, findSome?_after readable.size]
    simp

theorem Entry.WellFormed.told_eq (wellFormed : entry.WellFormed) : entry.told = entry.commit := by
  rw [told_of_absent wellFormed.spoken.2, wellFormed.trimmed]
  simp [Entry.commit]

/-! ### Whole pages -/

theorem fieldSeparator_mem_after (entry : Entry) : fieldSeparator ∈ entry.after :=
  List.mem_cons_self

/-- A text with a field separator is not blank. -/
theorem trim_ne_nil_of_mem {text : List Char} (member : fieldSeparator ∈ text) :
    trim text ≠ [] := by
  intro blank
  have solid : isBlank fieldSeparator = false := by decide
  exact absurd (trim_eq_nil_iff.mp blank fieldSeparator member) (by simp [solid])

theorem mapM_parseRecord (readable : ∀ entry ∈ entries, entry.Readable) :
    (entries.map Entry.record).mapM parseRecord = .ok (entries.map Entry.told) := by
  induction entries with
  | nil => rfl
  | cons entry entries ih =>
    obtain ⟨first, readable⟩ := List.forall_mem_cons.mp readable
    rw [List.map_cons, List.mapM_cons, parseRecord_record first, ih readable]
    rfl

/-- Nothing but the message can hold a record separator. -/
theorem recordSeparator_not_mem_record (readable : entry.Readable)
    (unbroken : recordSeparator ∉ entry.message.toList) : recordSeparator ∉ entry.record := by
  have other : recordSeparator ≠ fieldSeparator := by decide
  have head : recordSeparator ∉ entry.head.flatMap (· ++ [fieldSeparator]) := by
    simpa [other] using readable.not_mem_head (Or.inl rfl)
  have trailer : recordSeparator ∉ entry.trailer := by
    rw [Entry.trailer]
    cases entry.size with
    | none => exact List.not_mem_nil
    | some line =>
      have told : recordSeparator ∉ line.render := fun member => by
        rcases Shortstat.mem_render member with digit | word
        · exact absurd digit (by decide)
        · exact absurd word (by decide)
      have newline : recordSeparator ≠ '\n' := by decide
      simp [told, newline]
  have newline : recordSeparator ≠ '\n' := by decide
  rw [Entry.record, Entry.after]
  simp [head, unbroken, other, newline, trailer]

/-- The records of a page are the pieces of its entries' records. -/
theorem parse_page_eq (entries : List Entry) :
    parse (page entries) = (((entries.map Entry.record).flatMap (splitOn recordSeparator)).filter
      fun record => !(trim record).isEmpty).mapM parseRecord := by
  have blank : trim [] = [] := rfl
  rw [parse, page_eq, splitOn_flatMap, List.filter_cons_of_neg (by simp [blank])]

/-- Messages without record separators leave every record whole. -/
theorem parse_page_of_unbroken (readable : ∀ entry ∈ entries, entry.Readable)
    (unbroken : ∀ entry ∈ entries, recordSeparator ∉ entry.message.toList) :
    parse (page entries) = .ok (entries.map Entry.told) := by
  have whole : (entries.map Entry.record).flatMap (splitOn recordSeparator) =
      entries.map Entry.record := by
    have single : ∀ entry ∈ entries, splitOn recordSeparator entry.record = [entry.record] :=
      fun entry member => splitOn_of_absent
        (recordSeparator_not_mem_record (readable entry member) (unbroken entry member))
    rw [List.flatMap_map, List.flatMap_congr single, List.map_eq_flatMap]
  have kept : (entries.map Entry.record).filter (fun record => !(trim record).isEmpty) =
      entries.map Entry.record := by
    rw [List.filter_eq_self]
    intro record listed
    obtain ⟨entry, -, rfl⟩ := List.mem_map.mp listed
    have solid : trim entry.record ≠ [] :=
      trim_ne_nil_of_mem (by simp [Entry.record, fieldSeparator_mem_after])
    simpa using solid
  rw [parse_page_eq, whole, kept, mapM_parseRecord readable]

/-- Reading a page gives back every commit, in order and with every field. -/
theorem parse_page (wellFormed : ∀ entry ∈ entries, entry.WellFormed) :
    parse (page entries) = .ok (entries.map Entry.commit) := by
  rw [parse_page_of_unbroken (fun entry member => (wellFormed entry member).toReadable)
    fun entry member => (wellFormed entry member).spoken.1]
  refine congrArg Except.ok (List.map_congr_left fun entry member => ?_)
  exact (wellFormed entry member).told_eq

/-- A merge whose message looks like a size line, and a commit by nobody with no message. -/
def samplePage : List Entry :=
  [{ id := "c1", parents := ["c2", "c3"], author := "Jane Doe", email := "jane@example.com"
     seconds := 1700000000, decorations := "HEAD -> refs/heads/main, tag: refs/tags/v1.0"
     message := "chore: cleanup\n\n 3 files changed", size := some ⟨2, some 1, none⟩ },
   { id := "c2", parents := [], author := "", email := "", seconds := -1, decorations := ""
     message := "", size := none }]

theorem parse_page_samplePage :
    (∀ entry ∈ samplePage, entry.WellFormed) ∧
      parse (page samplePage) = .ok (samplePage.map Entry.commit) := by
  have wellFormed : ∀ entry ∈ samplePage, entry.WellFormed := by decide
  exact ⟨wellFormed, parse_page wellFormed⟩

end CommitHistory.Log
