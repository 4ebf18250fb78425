/-
# Size lines that are read as they were written

A size line tells how many files changed, and may tell how many lines were inserted and how many
were deleted. Each count is followed by a noun in the singular or in the plural. Such a line is one
of the spellings that the reader takes apart, and its digits stand for its counts. A spelling has no
characters but blanks, digits and the words of the line, so a line with any other character tells
nothing.

## Main definitions

* `Shortstat.Line`, `Shortstat.Line.render` — what a line tells, and the line.
* `Shortstat.Line.spelling` — how the line is spelled.

## Main results

* `Shortstat.parse?_exact` — what is read, and as which size.
* `Shortstat.parse?_render` — reading undoes writing.
* `Shortstat.parse?_eq_none_of_mem` — a foreign character makes a line unreadable.
-/

import CommitHistory.Proofs.Log.SizeGrammar
import Mathlib.Tactic.MkIffOfInductiveProp

namespace CommitHistory.Shortstat

open Text

/-- What a size line tells. A count that is left out is zero. -/
structure Line where
  files : Nat
  insertions : Option Nat
  deletions : Option Nat
deriving DecidableEq, Repr

/-- A noun behind a count: in the singular behind one, in the plural behind every other. -/
def numbered (noun : List Char) (count : Nat) : List Char :=
  noun ++ if count = 1 then [] else ['s']

/-- A comma, a count, its noun and a mark in brackets, if there is a count. -/
def renderPart (noun mark : List Char) : Option Nat → List Char
  | none => []
  | some count => ", ".toList ++ (Numeral.ofNat count ++ (numbered noun count ++ mark))

namespace Line

/-- The size of the change that a line tells. -/
def statistics (line : Line) : Statistics :=
  ⟨line.files, line.insertions.getD 0, line.deletions.getD 0⟩

/-- The line as the log prints it. -/
def render (line : Line) : List Char :=
  ' ' :: (Numeral.ofNat line.files ++ (numbered " file".toList line.files ++
    (" changed".toList ++ (renderPart " insertion".toList "(+)".toList line.insertions ++
      renderPart " deletion".toList "(-)".toList line.deletions))))

/-- All counts of a line are counts of 64 bits. -/
@[mk_iff]
structure Bounded (line : Line) : Prop where
  files : line.files ≤ Numeral.maxCount
  insertions : ∀ count ∈ line.insertions, count ≤ Numeral.maxCount
  deletions : ∀ count ∈ line.deletions, count ≤ Numeral.maxCount

instance (line : Line) : Decidable line.Bounded := decidable_of_iff _ line.bounded_iff.symm

end Line

variable {line : Line} {s : List Char} {c : Char}

/-! ### Reading what was written -/

/-- A count in ASCII digits, with a singular behind one and a plural behind every other. -/
def Figure.ofCount (count : Nat) : Figure where
  digits := Numeral.ofNat count
  plural := count ≠ 1
  digits_ne_nil := Numeral.ofNat_ne_nil count
  decimal := fun _ => Numeral.isDecimalDigit_of_mem_ofNat

/-- The spelling in which the log prints a line. -/
def Line.spelling (line : Line) : Spelling where
  before := [' ']
  files := .ofCount line.files
  insertions := line.insertions.map .ofCount
  deletions := line.deletions.map .ofCount
  after := []
  blank_before := List.all_eq_true.mp (by decide)
  blank_after := List.forall_mem_nil _

theorem Figure.text_ofCount (noun : List Char) (count : Nat) :
    (ofCount count).text noun = Numeral.ofNat count ++ numbered noun count := by
  by_cases one : count = 1 <;> simp [ofCount, text, inflected, numbered, one]

theorem partText_ofCount (noun mark : List Char) (count : Option Nat) :
    partText noun mark (count.map .ofCount) = renderPart noun mark count := by
  cases count with
  | none => rfl
  | some count => simp [partText, renderPart, Figure.text_ofCount]

theorem Line.text_spelling (line : Line) : line.spelling.text = line.render := by
  simp only [Spelling.text, spelling, render, Figure.text_ofCount, partText_ofCount,
    List.append_assoc, List.append_nil, List.cons_append, List.nil_append]

/-- Digits that were written stand for the count that they were written for. -/
theorem Figure.count_ofCount {count : Nat} (bounded : count ≤ Numeral.maxCount) :
    (ofCount count).count = count := by
  have value : Nat.ofDigitChars 10 (ofCount count).digits 0 = count :=
    Numeral.digitsValue_ofNat count
  have ascii : (ofCount count).digits.all Char.isDigit :=
    List.all_eq_true.mpr fun _ => Numeral.isDigit_of_mem_ofNat
  have size : count < Nat.pow 2 64 := Nat.lt_succ_of_le bounded
  rw [Figure.count, value, if_pos ⟨ascii, size⟩]

theorem Line.statistics_spelling (bounded : line.Bounded) :
    line.spelling.statistics = line.statistics := by
  have part {count : Option Nat} (bounded : ∀ n ∈ count, n ≤ Numeral.maxCount) :
      ((count.map Figure.ofCount).map Figure.count).getD 0 = count.getD 0 := by
    cases count with
    | none => rfl
    | some count => exact Figure.count_ofCount (bounded count rfl)
  rw [Spelling.statistics, spelling, Figure.count_ofCount bounded.files, part bounded.insertions,
    part bounded.deletions, statistics]

/-- Reading undoes writing. -/
theorem parse?_render (bounded : line.Bounded) : parse? line.render = some line.statistics := by
  rw [← line.text_spelling, parse?_text, Line.statistics_spelling bounded]

/-- A text is read exactly when it spells a size line, and as the size that it spells. A line that
the log prints spells the size that it tells. -/
theorem parse?_exact :
    (∀ text statistics, parse? text = some statistics ↔
      ∃ spelling : Spelling, spelling.text = text ∧ spelling.statistics = statistics) ∧
    ∀ line : Line, line.Bounded → parse? line.render = some line.statistics := by
  refine ⟨fun text statistics => ⟨exists_spelling, ?_⟩, fun line => parse?_render⟩
  rintro ⟨spelling, rfl, rfl⟩
  exact parse?_text spelling

/-- A spelling with digits of another script, in blanks that are no spaces. -/
def arabicSpelling : Spelling where
  before := ['\u2003', '\t']
  files := ⟨['\u0661', '\u0662'], false, by decide, List.all_eq_true.mp (by decide)⟩
  insertions := none
  deletions := some ⟨['0', '7'], true, by decide, List.all_eq_true.mp (by decide)⟩
  after := ['\u00a0', '\n']
  blank_before := List.all_eq_true.mp (by decide)
  blank_after := List.all_eq_true.mp (by decide)

/-- A printed line without deletions, and digits that stand for no count. -/
theorem parse?_exact_sampleLines :
    (Line.mk 2 (some 1) none).Bounded ∧
      (Line.mk 2 (some 1) none).render = " 2 files changed, 1 insertion(+)".toList ∧
      parse? " 2 files changed, 1 insertion(+)".toList = some ⟨2, 1, 0⟩ ∧
      parse? "\u2003\t\u0661\u0662 file changed, 07 deletions(-)\u00a0\n".toList =
        some ⟨0, 0, 7⟩ := by
  have bounded : (Line.mk 2 (some 1) none).Bounded := by decide
  obtain ⟨spelled, printed⟩ := parse?_exact
  exact ⟨bounded, by decide, printed _ bounded,
    (spelled _ _).mpr ⟨arabicSpelling, by decide, by decide⟩⟩

/-! ### What a line is made of -/

/-- The words of a size line. -/
def vocabulary : List Char := " files changed, insertions(+) deletions(-)".toList

/-- The counts that a line spells. -/
def Spelling.figures (spelling : Spelling) : List Figure :=
  spelling.files :: (spelling.insertions.toList ++ spelling.deletions.toList)

theorem mem_figureText {noun : List Char} {figure : Figure} (known : noun ⊆ vocabulary)
    (member : c ∈ figure.text noun) : c ∈ figure.digits ∨ c ∈ vocabulary := by
  rw [Figure.text, inflected, List.mem_append, List.mem_append] at member
  rcases member with digit | named | plural
  · exact Or.inl digit
  · exact Or.inr (known named)
  · split at plural
    · rw [List.mem_singleton.mp plural]
      exact Or.inr (by decide)
    · cases plural

theorem mem_partText {noun mark : List Char} {part : Option Figure} (known : noun ⊆ vocabulary)
    (marked : mark ⊆ vocabulary) (member : c ∈ partText noun mark part) :
    (∃ figure ∈ part, c ∈ figure.digits) ∨ c ∈ vocabulary := by
  cases part with
  | none => cases member
  | some figure =>
    have comma : ", ".toList ⊆ vocabulary := by decide
    rw [partText, List.mem_append, List.mem_append] at member
    rcases member with (first | counted) | mark
    · exact Or.inr (comma first)
    · exact (mem_figureText known counted).imp_left fun digit => ⟨figure, rfl, digit⟩
    · exact Or.inr (marked mark)

/-- A spelling has blanks around digits and the words of size lines. -/
theorem Spelling.mem_text {spelling : Spelling} (member : c ∈ spelling.text) :
    (c ∈ spelling.before ∨ c ∈ spelling.after) ∨
      (∃ figure ∈ spelling.figures, c ∈ figure.digits) ∨ c ∈ vocabulary := by
  have changed : " changed".toList ⊆ vocabulary := by decide
  simp only [text, List.mem_append] at member
  rcases member with ((((before | files) | change) | inserted) | deleted) | after
  · exact Or.inl (Or.inl before)
  · refine Or.inr ((mem_figureText (by decide) files).imp_left fun digit => ?_)
    exact ⟨spelling.files, List.mem_cons_self, digit⟩
  · exact Or.inr (Or.inr (changed change))
  · refine Or.inr ((mem_partText (by decide) (by decide) inserted).imp_left ?_)
    rintro ⟨figure, part, digit⟩
    exact ⟨figure, by simp [figures, Option.mem_def.mp part], digit⟩
  · refine Or.inr ((mem_partText (by decide) (by decide) deleted).imp_left ?_)
    rintro ⟨figure, part, digit⟩
    exact ⟨figure, by simp [figures, Option.mem_def.mp part], digit⟩
  · exact Or.inl (Or.inr after)

/-- A line has digits and the words of size lines. -/
theorem mem_render (member : c ∈ line.render) : c.isDigit = true ∨ c ∈ vocabulary := by
  rw [← line.text_spelling] at member
  rcases Spelling.mem_text member with (before | after) | ⟨figure, listed, digit⟩ | word
  · rw [List.mem_singleton.mp before]
    exact Or.inr (by decide)
  · cases after
  · have counts : line.spelling.figures =
        (line.files :: (line.insertions.toList ++ line.deletions.toList)).map Figure.ofCount := by
      simp [Spelling.figures, Line.spelling, Option.toList_map]
    obtain ⟨count, -, rfl⟩ := List.mem_map.mp (counts ▸ listed)
    exact Or.inl (Numeral.isDigit_of_mem_ofNat digit)
  · exact Or.inr word

/-- A character that stands in no size line: no blank, no digit and in none of its words. -/
structure Foreign (c : Char) : Prop where
  solid : isBlank c = false
  digit : isDecimalDigit c = false
  word : c ∉ vocabulary

/-- A line with a foreign character tells nothing. -/
theorem parse?_eq_none_of_mem (foreign : Foreign c) (member : c ∈ s) : parse? s = none := by
  rw [Option.eq_none_iff_forall_ne_some]
  intro statistics read
  obtain ⟨spelling, rfl, -⟩ := exists_spelling read
  rcases Spelling.mem_text member with (before | after) | ⟨figure, -, digit⟩ | word
  · exact Bool.false_ne_true (foreign.solid.symm.trans (spelling.blank_before c before))
  · exact Bool.false_ne_true (foreign.solid.symm.trans (spelling.blank_after c after))
  · exact Bool.false_ne_true (foreign.digit.symm.trans (figure.decimal c digit))
  · exact foreign.word word

end CommitHistory.Shortstat
