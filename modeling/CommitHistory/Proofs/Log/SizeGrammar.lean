/-
# The spellings of a size line

A size line is a count of files with its noun and the word for changed, then a part for the
insertions and a part for the deletions, each of which may be missing, with blanks around all of
it. Digits may be those of any script, and each noun stands in the singular or in the plural. The
reader takes every such line apart into its runs of digits and takes nothing else for a size line.

A run stands for a count when it is made of ASCII digits and its value has 64 bits. Any other run
makes no line unreadable: it counts as zero, like a part that is missing.

## Main definitions

* `Shortstat.Figure` — a run of digits with the number of the noun behind it.
* `Shortstat.Spelling`, `Shortstat.Spelling.text` — what a line is spelled with, and the line.
* `Shortstat.Spelling.statistics` — the size that is spelled.

## Main results

* `Shortstat.parse?_text` — every spelling is read as the size that it spells.
* `Shortstat.exists_spelling` — whatever is read has a spelling.
-/

import CommitHistory.Log.Shortstat
import CommitHistory.Proofs.Text.Cutting
import CommitHistory.Proofs.Text.Numeral

namespace CommitHistory.Shortstat

open Text

/-- A noun in the singular or in the plural. -/
def inflected (noun : List Char) (plural : Bool) : List Char := noun ++ if plural then ['s'] else []

/-- A count as a line spells it: decimal digits of any script, and whether the noun behind them
stands in the plural. -/
structure Figure where
  digits : List Char
  plural : Bool
  digits_ne_nil : digits ≠ []
  decimal : ∀ c ∈ digits, isDecimalDigit c = true

namespace Figure

/-- The digits and the noun behind them. -/
def text (noun : List Char) (figure : Figure) : List Char :=
  figure.digits ++ inflected noun figure.plural

/-- The count that the digits stand for: their decimal value, if all are ASCII digits and the
value has 64 bits. -/
def count (figure : Figure) : Nat :=
  if figure.digits.all Char.isDigit ∧ Nat.ofDigitChars 10 figure.digits 0 < Nat.pow 2 64 then
    Nat.ofDigitChars 10 figure.digits 0
  else 0

end Figure

/-- A comma, a count with its noun and a mark in brackets, if there is a count. -/
def partText (noun mark : List Char) : Option Figure → List Char
  | none => []
  | some figure => ", ".toList ++ figure.text noun ++ mark

/-- What a size line is spelled with. -/
structure Spelling where
  before : List Char
  files : Figure
  insertions : Option Figure
  deletions : Option Figure
  after : List Char
  blank_before : ∀ c ∈ before, isBlank c = true
  blank_after : ∀ c ∈ after, isBlank c = true

namespace Spelling

/-- The line. -/
def text (spelling : Spelling) : List Char :=
  spelling.before ++ spelling.files.text " file".toList ++ " changed".toList ++
    partText " insertion".toList "(+)".toList spelling.insertions ++
    partText " deletion".toList "(-)".toList spelling.deletions ++ spelling.after

/-- The size that the line spells. A part that is missing counts as zero. -/
def statistics (spelling : Spelling) : Statistics where
  filesChanged := spelling.files.count
  insertions := (spelling.insertions.map Figure.count).getD 0
  deletions := (spelling.deletions.map Figure.count).getD 0

end Spelling

variable {noun mark run rest s : List Char} {figure : Figure}

/-! ### Counts -/

/-- The digits of a part; a part that is missing has none. -/
def digitsOf (part : Option Figure) : List Char := (part.map Figure.digits).getD []

/-- A run of digits is taken for the count that it stands for. -/
theorem countOf_digits (figure : Figure) : countOf figure.digits = figure.count := by
  have value : Numeral.digitsValue figure.digits = Nat.ofDigitChars 10 figure.digits 0 := rfl
  have limit (n : Nat) : n ≤ Numeral.maxCount ↔ n < Nat.pow 2 64 := by
    rw [show Nat.pow 2 64 = Numeral.maxCount + 1 from rfl, Nat.lt_succ_iff]
  rw [countOf, Numeral.natUpTo?, Numeral.digits?, value, Figure.count]
  by_cases ascii : figure.digits.all Char.isDigit
  · rw [if_pos ⟨figure.digits_ne_nil, ascii⟩, Option.filter_some]
    by_cases bounded : Nat.ofDigitChars 10 figure.digits 0 ≤ Numeral.maxCount
    · rw [if_pos (decide_eq_true bounded), if_pos ⟨ascii, (limit _).mp bounded⟩]
      rfl
    · rw [if_neg (mt of_decide_eq_true bounded),
        if_neg (fun both => bounded ((limit _).mpr both.2))]
      rfl
  · rw [if_neg (fun both => ascii both.2), if_neg (fun both => ascii both.1)]
    rfl

theorem countOf_digitsOf (part : Option Figure) :
    countOf (digitsOf part) = (part.map Figure.count).getD 0 := by
  cases part with
  | none => rfl
  | some figure => exact countOf_digits figure

/-! ### What is spelled is read -/

/-- A count is read to its end if no digit follows. -/
theorem digits?_append (figure : Figure) (stop : ∀ c ∈ rest.head?, isDecimalDigit c = false) :
    digits? (figure.digits ++ rest) = some (figure.digits, rest) := by
  have written : figure.digits.isEmpty = false := by simp [figure.digits_ne_nil]
  rw [digits?, takeWhile_append_of_stop figure.decimal stop,
    dropWhile_append_of_stop figure.decimal stop]
  simp [written]

/-- A noun is read in the singular and in the plural. -/
theorem noun?_append (noun : List Char) (plural : Bool) (stop : rest.head? ≠ some 's') :
    noun? noun (inflected noun plural ++ rest) = some rest := by
  rw [inflected, noun?, List.append_assoc, dropPrefix?_append]
  cases plural with
  | true => simp [dropPrefix?]
  | false =>
    cases rest with
    | nil => rfl
    | cons c rest =>
      -- Behind a singular the reader looks for the letter of the plural all the same.
      have other : c ≠ 's' := fun same => stop (congrArg some same)
      simp [dropPrefix?, Ne.symm other]

/-- A count and its noun are read one after the other. -/
theorem digits?_text (figure : Figure) (start : noun.head?.all isDecimalDigit = false)
    (rest : List Char) :
    digits? (figure.text noun ++ rest) =
      some (figure.digits, inflected noun figure.plural ++ rest) := by
  rw [Figure.text, List.append_assoc]
  refine digits?_append figure ?_
  cases noun with
  | nil => cases start
  | cons c noun => simpa [inflected] using start

/-- A part is read whatever follows its mark. -/
theorem part?_append (figure : Figure) (start : noun.head?.all isDecimalDigit = false)
    (stop : (mark ++ rest).head? ≠ some 's') :
    part? noun mark (partText noun mark (some figure) ++ rest) = some (figure.digits, rest) := by
  rw [part?, partText]
  simp only [List.append_assoc, dropPrefix?_append, digits?_text figure start,
    noun?_append noun figure.plural stop, Option.bind_eq_bind, Option.bind_some]

/-- A part that may be missing is read if nothing that follows is taken for it. -/
theorem optionalPart_append (noun mark : List Char) (part : Option Figure)
    (start : noun.head?.all isDecimalDigit = false)
    (stop : (mark ++ rest).head? ≠ some 's') (other : part? noun mark rest = none) :
    (part? noun mark (partText noun mark part ++ rest)).getD ([], partText noun mark part ++ rest) =
      (digitsOf part, rest) := by
  cases part with
  | none => simp [partText, other, digitsOf]
  | some figure => simp [part?_append figure start stop, digitsOf]

/-- Blanks are taken for no part. -/
theorem part?_of_blank (blank : ∀ c ∈ rest, isBlank c = true) : part? noun mark rest = none := by
  have comma : dropPrefix? ", ".toList rest = none := by
    cases rest with
    | nil => rfl
    | cons c rest =>
      have other : c ≠ ',' := by
        rintro rfl
        exact absurd (blank ',' List.mem_cons_self) (by decide)
      exact dropPrefix?_of_not_prefix (by simp [Ne.symm other])
  rw [part?, comma]
  rfl

/-- Deletions are taken for no insertions: they begin alike, and only the noun tells them apart. -/
theorem part?_insertions_of_deletions (deletions : Option Figure)
    (blank : ∀ c ∈ rest, isBlank c = true) :
    part? " insertion".toList "(+)".toList
      (partText " deletion".toList "(-)".toList deletions ++ rest) = none := by
  cases deletions with
  | none => exact part?_of_blank blank
  | some figure =>
    have start : " deletion".toList.head?.all isDecimalDigit = false := by decide
    have other (rest : List Char) : noun? " insertion".toList
        (inflected " deletion".toList figure.plural ++ rest) = none := by
      simp [noun?, inflected, dropPrefix?]
    rw [part?, partText]
    simp only [List.append_assoc, dropPrefix?_append, digits?_text figure start, other,
      Option.bind_eq_bind, Option.bind_some, Option.bind_none]

/-- Blanks before a count are passed over. -/
theorem trimStart_append (figure : Figure) (blank : ∀ c ∈ s, isBlank c = true)
    (rest : List Char) :
    trimStart (s ++ (figure.text noun ++ rest)) = figure.text noun ++ rest := by
  refine dropWhile_append_of_stop blank fun c first => ?_
  obtain ⟨d, digits, split⟩ := List.exists_cons_of_ne_nil figure.digits_ne_nil
  have digit : isDecimalDigit d = true := figure.decimal d (split ▸ List.mem_cons_self)
  obtain rfl : d = c := by simpa [Figure.text, split] using first
  exact isBlank_of_isDecimalDigit digit

/-- Every spelling is read as the size that it spells. -/
theorem parse?_text (spelling : Spelling) : parse? spelling.text = some spelling.statistics := by
  obtain ⟨before, files, insertions, deletions, after, blank_before, blank_after⟩ := spelling
  have start : " file".toList.head?.all isDecimalDigit = false := by decide
  have noun (rest : List Char) : noun? " file".toList
      (inflected " file".toList files.plural ++ (" changed".toList ++ rest)) =
        some (" changed".toList ++ rest) :=
    noun?_append _ files.plural (by simp)
  have inserted := optionalPart_append " insertion".toList "(+)".toList insertions (by decide)
    (by simp) (part?_insertions_of_deletions deletions blank_after)
  have deleted := optionalPart_append " deletion".toList "(-)".toList deletions (by decide)
    (by simp) (part?_of_blank blank_after)
  have ended : trimStart after = [] := List.dropWhile_eq_nil_iff.mpr blank_after
  simp only [parse?, Spelling.text, List.append_assoc, trimStart_append files blank_before,
    digits?_text files start, noun, dropPrefix?_append, inserted, deleted, Option.bind_eq_bind,
    Option.bind_some]
  rw [if_pos ended, countOf_digits, countOf_digitsOf, countOf_digitsOf]
  rfl

/-! ### What is read is spelled -/

/-- A run that is read makes a figure with a noun of either number. -/
theorem exists_figure (read : digits? s = some (run, rest)) (plural : Bool) :
    ∃ figure : Figure, figure.digits = run ∧ figure.plural = plural ∧ s = run ++ rest := by
  rw [digits?] at read
  split at read
  · cases read
  next some =>
    rw [List.isEmpty_iff] at some
    obtain ⟨rfl, rfl⟩ := Prod.mk.inj (Option.some.inj read)
    exact ⟨⟨_, plural, some, fun _ => List.mem_takeWhile_imp⟩, rfl, rfl,
      List.takeWhile_append_dropWhile.symm⟩

theorem exists_inflected (read : noun? noun s = some rest) :
    ∃ plural, s = inflected noun plural ++ rest := by
  obtain ⟨after, named, read⟩ := Option.bind_eq_some_iff.mp read
  rw [dropPrefix?_eq_some named]
  cases ended : dropPrefix? ['s'] after with
  | none => exact ⟨false, by simp [inflected, ← Option.some.inj read, ended]⟩
  -- A letter that can belong to the noun is taken with it.
  | some singular =>
    refine ⟨true, ?_⟩
    rw [dropPrefix?_eq_some ended, ← Option.some.inj read, ended]
    simp [inflected]

/-- A count with its noun is read off a text that spells it. -/
theorem exists_text {named : List Char} (counted : digits? s = some (run, named))
    (read : noun? noun named = some rest) :
    ∃ figure : Figure, figure.digits = run ∧ s = figure.text noun ++ rest := by
  obtain ⟨plural, rfl⟩ := exists_inflected read
  obtain ⟨figure, rfl, rfl, rfl⟩ := exists_figure counted plural
  exact ⟨figure, rfl, by simp [Figure.text]⟩

theorem exists_part (read : part? noun mark s = some (run, rest)) :
    ∃ figure : Figure, figure.digits = run ∧ s = partText noun mark (some figure) ++ rest := by
  obtain ⟨counted, comma, read⟩ := Option.bind_eq_some_iff.mp read
  obtain ⟨⟨digits, named⟩, count, read⟩ := Option.bind_eq_some_iff.mp read
  obtain ⟨bracket, noun, read⟩ := Option.bind_eq_some_iff.mp read
  obtain ⟨after, mark, read⟩ := Option.bind_eq_some_iff.mp read
  obtain ⟨rfl, rfl⟩ := Prod.mk.inj (Option.some.inj read)
  obtain ⟨figure, rfl, rfl⟩ := exists_text count noun
  refine ⟨figure, rfl, ?_⟩
  rw [dropPrefix?_eq_some comma, dropPrefix?_eq_some mark]
  simp [partText]

/-- What is read of a part that may be missing was spelled, or nothing was. -/
theorem exists_optionalPart (read : (part? noun mark s).getD ([], s) = (run, rest)) :
    ∃ part : Option Figure, digitsOf part = run ∧ s = partText noun mark part ++ rest := by
  cases found : part? noun mark s with
  | none =>
    rw [found] at read
    obtain ⟨rfl, rfl⟩ := Prod.mk.inj read
    exact ⟨none, rfl, rfl⟩
  | some _ =>
    rw [found, Option.getD_some] at read
    obtain ⟨figure, rfl, split⟩ := exists_part (found.trans (congrArg some read))
    exact ⟨some figure, rfl, split⟩

/-- Whatever is read has a spelling. -/
theorem exists_spelling {statistics : Statistics} (read : parse? s = some statistics) :
    ∃ spelling : Spelling, spelling.text = s ∧ spelling.statistics = statistics := by
  obtain ⟨⟨digits, named⟩, count, read⟩ := Option.bind_eq_some_iff.mp read
  obtain ⟨changed, noun, read⟩ := Option.bind_eq_some_iff.mp read
  obtain ⟨parts, change, read⟩ := Option.bind_eq_some_iff.mp read
  obtain ⟨files, rfl, split_files⟩ := exists_text count noun
  obtain ⟨⟨run, behind⟩, inserted⟩ : ∃ found,
    (part? " insertion".toList "(+)".toList parts).getD ([], parts) = found := ⟨_, rfl⟩
  obtain ⟨⟨lastRun, after⟩, deleted⟩ : ∃ found,
    (part? " deletion".toList "(-)".toList behind).getD ([], behind) = found := ⟨_, rfl⟩
  simp only [inserted, deleted] at read
  -- Each reader hands on what it left, so the text is what they passed over, put together.
  obtain ⟨insertions, rfl, split_insertions⟩ := exists_optionalPart inserted
  obtain ⟨deletions, rfl, split_deletions⟩ := exists_optionalPart deleted
  split at read
  next blank =>
    let spelling : Spelling :=
      { before := s.takeWhile isBlank
        files, insertions, deletions, after
        blank_before := fun _ => List.mem_takeWhile_imp
        blank_after := List.dropWhile_eq_nil_iff.mp blank }
    refine ⟨spelling, ?_, ?_⟩
    · have split : s = s.takeWhile isBlank ++ trimStart s :=
        List.takeWhile_append_dropWhile.symm
      rw [split_files, dropPrefix?_eq_some change, split_insertions, split_deletions] at split
      simpa only [spelling, Spelling.text, List.append_assoc] using split.symm
    · rw [← Option.some.inj read, countOf_digits, countOf_digitsOf, countOf_digitsOf]
      rfl
  · cases read

end CommitHistory.Shortstat
