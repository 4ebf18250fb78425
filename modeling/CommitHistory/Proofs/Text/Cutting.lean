/-
# Texts that are cut where they were joined

A text that was joined from pieces falls into the same pieces again when no piece holds the
separator. A character that is no separator is in one of the pieces. Trimming takes blanks away
at the ends and nothing else, and words with single blanks between them are read one by one.

## Main results

* `Text.takeWhile_append_of_stop` — a run is taken to its end.
* `Text.splitOn_append`, `Text.splitAtMost_append` — cutting at a separator that is known.
* `Text.splitOnPair_intercalate` — cutting at a separator of two characters.
* `Text.lines_append` — a line end closes the lines before it.
* `Text.mem_of_mem_splitOn`, `Text.mem_of_mem_lines` — what pieces and lines are made of.
* `Text.trim_eq_nil_iff`, `Text.words_intercalate` — blanks at the ends and between words.
-/

import CommitHistory.Text.Blank
import CommitHistory.Text.Lines
import Mathlib.Data.List.Chain
import Mathlib.Data.List.DropRight
import Mathlib.Data.List.TakeWhile

namespace CommitHistory.Text

variable {separator : Char} {text piece more : List Char}

/-! ### A run of characters -/

section Run

variable {p : Char → Bool}

/-- A run of characters of one kind is taken to its end if the next character is of another. -/
theorem takeWhile_append_of_stop (run : ∀ c ∈ piece, p c = true)
    (stop : ∀ c ∈ more.head?, p c = false) : (piece ++ more).takeWhile p = piece := by
  rw [List.takeWhile_append_of_pos run]
  cases more with
  | nil => simp
  | cons c more => simp [stop c rfl]

/-- What follows a run begins with the character at which the run stops. -/
theorem dropWhile_append_of_stop (run : ∀ c ∈ piece, p c = true)
    (stop : ∀ c ∈ more.head?, p c = false) : (piece ++ more).dropWhile p = more := by
  rw [List.dropWhile_append_of_pos run]
  cases more with
  | nil => rfl
  | cons c more => simp [stop c rfl]

end Run

/-! ### Every separator -/

theorem splitOn_eq (separator : Char) (text : List Char) :
    splitOn separator text = text.splitOn separator := by
  induction text with
  | nil => rfl
  | cons c rest ih =>
    rw [splitOn, List.splitOn_cons_eq_if_modifyHead, ih]
    cases pieces : rest.splitOn separator with
    | nil => exact absurd pieces (List.splitOn_ne_nil _ _)
    | cons piece pieces => simp

theorem splitOn_ne_nil (separator : Char) (text : List Char) : splitOn separator text ≠ [] := by
  rw [splitOn_eq]
  exact List.splitOn_ne_nil _ _

theorem splitOn_of_absent (absent : separator ∉ text) : splitOn separator text = [text] := by
  rw [splitOn_eq]
  exact List.splitOn_eq_singleton absent

theorem splitOn_append (separator : Char) (text rest : List Char) :
    splitOn separator (text ++ separator :: rest) =
      splitOn separator text ++ splitOn separator rest := by
  rw [splitOn_eq, splitOn_eq, splitOn_eq, List.splitOn_append_cons_self]

/-- A character that is no separator is in one of the pieces that are joined. -/
theorem exists_mem_of_mem_intercalate {c : Char} {pieces : List (List Char)}
    (member : c ∈ [separator].intercalate pieces) (other : c ≠ separator) :
    ∃ piece ∈ pieces, c ∈ piece := by
  induction pieces with
  | nil => cases member
  | cons piece pieces ih =>
    cases pieces with
    | nil => exact ⟨piece, List.mem_cons_self, by simpa using member⟩
    | cons next pieces =>
      rw [List.intercalate_cons_cons, List.mem_append, List.mem_append] at member
      rcases member with (member | same) | member
      · exact ⟨piece, List.mem_cons_self, member⟩
      · exact absurd (List.mem_singleton.mp same) other
      · obtain ⟨found, here, member⟩ := ih member
        exact ⟨found, List.mem_cons_of_mem _ here, member⟩

theorem exists_mem_splitOn {c : Char} (member : c ∈ text) (other : c ≠ separator) :
    ∃ piece ∈ splitOn separator text, c ∈ piece := by
  have joined : [separator].intercalate (splitOn separator text) = text := by
    rw [splitOn_eq, List.intercalate_splitOn]
  exact exists_mem_of_mem_intercalate (joined.symm ▸ member) other

/-- What is appended to a text becomes part of the last piece, if no separator is in it. -/
theorem exists_splitOn_append (text : List Char) (absent : separator ∉ more) :
    ∃ last, splitOn separator (text ++ more) =
      (splitOn separator text).dropLast ++ [last ++ more] := by
  by_cases member : separator ∈ text
  · -- The last separator is the first one from behind.
    obtain ⟨last, before, split, unbroken⟩ :=
      List.eq_append_cons_of_mem (List.mem_reverse.mpr member)
    obtain rfl : text = before.reverse ++ separator :: last.reverse := by
      rw [← List.reverse_reverse text, split]
      simp
    have unbroken : separator ∉ last.reverse := by simpa using unbroken
    have whole : separator ∉ last.reverse ++ more := by simp [absent, unbroken]
    refine ⟨last.reverse, ?_⟩
    rw [List.append_assoc, List.cons_append, splitOn_append, splitOn_append,
      splitOn_of_absent unbroken, splitOn_of_absent whole, List.dropLast_concat]
  · have whole : separator ∉ text ++ more := by simp [absent, member]
    exact ⟨text, by rw [splitOn_of_absent whole, splitOn_of_absent member]; rfl⟩

/-- Pieces that each begin with the separator are cut apart, and each may be cut further. -/
theorem splitOn_flatMap (separator : Char) (pieces : List (List Char)) :
    splitOn separator (pieces.flatMap (separator :: ·)) =
      [] :: pieces.flatMap (splitOn separator) := by
  have first (rest : List Char) : splitOn separator (separator :: rest) =
      [] :: splitOn separator rest := splitOn_append separator [] rest
  induction pieces with
  | nil => rfl
  | cons piece pieces ih =>
    rw [List.flatMap_cons, List.cons_append, first, List.flatMap_cons]
    cases pieces with
    | nil => simp
    | cons next pieces =>
      -- The next piece brings its separator along, which is where this one ends.
      rw [List.flatMap_cons, List.cons_append, first, List.cons.injEq] at ih
      rw [List.flatMap_cons, List.cons_append, splitOn_append, ih.2]

/-- Pieces that each end with the separator are cut off one by one, and nothing is left behind the
last separator. -/
theorem splitOn_flatMap_append {pieces : List (List Char)}
    (absent : ∀ piece ∈ pieces, separator ∉ piece) :
    splitOn separator (pieces.flatMap (· ++ [separator])) = pieces ++ [[]] := by
  induction pieces with
  | nil => rfl
  | cons piece pieces ih =>
    obtain ⟨first, absent⟩ := List.forall_mem_cons.mp absent
    rw [List.flatMap_cons, List.append_assoc, List.singleton_append, splitOn_append,
      splitOn_of_absent first, ih absent, List.singleton_append, List.cons_append]

/-- A piece has characters of the text, and the separator is none of them. -/
theorem mem_of_mem_splitOn {c : Char} (listed : piece ∈ splitOn separator text)
    (member : c ∈ piece) : c ∈ text ∧ c ≠ separator := by
  induction text generalizing piece with
  | nil =>
    rw [List.mem_singleton.mp listed] at member
    cases member
  | cons d rest ih =>
    have later {piece : List Char} (listed : piece ∈ splitOn separator rest) (member : c ∈ piece) :
        c ∈ d :: rest ∧ c ≠ separator :=
      (ih listed member).imp_left (List.mem_cons_of_mem d)
    rw [splitOn] at listed
    split at listed
    · rcases List.mem_cons.mp listed with rfl | listed
      · cases member
      · exact later listed member
    next other =>
      cases cut : splitOn separator rest with
      | nil => exact absurd cut (splitOn_ne_nil _ _)
      | cons first pieces =>
        rw [cut] at listed later
        rcases List.mem_cons.mp listed with rfl | listed
        · rcases List.mem_cons.mp member with rfl | member
          · exact ⟨List.mem_cons_self, other⟩
          · exact later List.mem_cons_self member
        · exact later (List.mem_cons_of_mem first listed) member

/-! ### The first few separators -/

theorem splitAtMost_append (absent : separator ∉ piece) (cuts : Nat) (rest : List Char) :
    splitAtMost separator (cuts + 1) (piece ++ separator :: rest) =
      piece :: splitAtMost separator cuts rest := by
  induction piece with
  | nil => simp [splitAtMost]
  | cons c piece ih =>
    rw [List.mem_cons, not_or] at absent
    simp [splitAtMost, Ne.symm absent.1, ih absent.2]

/-- Pieces that each end with the separator are cut off one by one. -/
theorem splitAtMost_flatMap {pieces : List (List Char)}
    (absent : ∀ piece ∈ pieces, separator ∉ piece) (cuts : Nat) (rest : List Char) :
    splitAtMost separator (cuts + pieces.length) (pieces.flatMap (· ++ [separator]) ++ rest) =
      pieces ++ splitAtMost separator cuts rest := by
  induction pieces with
  | nil => rfl
  | cons piece pieces ih =>
    obtain ⟨first, absent⟩ := List.forall_mem_cons.mp absent
    rw [List.flatMap_cons, List.append_assoc, List.append_assoc, List.singleton_append,
      List.length_cons, ← Nat.add_assoc, splitAtMost_append first, ih absent, List.cons_append]

/-- The first separator of a text is in its first part, or else in what follows. -/
theorem splitAtMost_one_append (separator : Char) (text rest : List Char) :
    splitAtMost separator 1 (text ++ separator :: rest) =
      match cutAt separator text with
      | none => [text, rest]
      | some (before, after) => [before, after ++ separator :: rest] := by
  induction text with
  | nil => simp [splitAtMost, cutAt]
  | cons c text ih =>
    by_cases same : c = separator
    · simp [splitAtMost, cutAt, same]
    · rw [List.cons_append, splitAtMost, if_neg same, ih, cutAt, if_neg same]
      cases cutAt separator text <;> rfl

theorem cutAt_of_absent (absent : separator ∉ text) : cutAt separator text = none := by
  induction text with
  | nil => rfl
  | cons c text ih =>
    rw [List.mem_cons, not_or] at absent
    rw [cutAt, if_neg (Ne.symm absent.1), ih absent.2]
    rfl

/-! ### A separator of two characters -/

section Pair

variable {first second : Char}

/-- The second character never follows the first one in the text. -/
def Apart (first second : Char) (text : List Char) : Prop :=
  text.IsChain fun c d => ¬ (c = first ∧ d = second)

/-- A text may go on in any way without the second character. -/
theorem Apart.append (apart : Apart first second text) (absent : second ∉ more) :
    Apart first second (text ++ more) := by
  refine List.isChain_append.mpr ⟨apart, List.isChain_iff_getElem.mpr fun i within pair => ?_,
    fun c _ d next pair => ?_⟩
  · exact absent (pair.2 ▸ List.getElem_mem within)
  · exact absent (pair.2 ▸ List.mem_of_mem_head? next)

theorem splitOnPair_append (differ : first ≠ second) (apart : Apart first second piece)
    (rest : List Char) :
    splitOnPair first second (piece ++ first :: second :: rest) =
      piece :: splitOnPair first second rest := by
  induction piece with
  | nil => simp [splitOnPair]
  | cons c piece ih =>
    cases piece with
    | nil => simp [splitOnPair, differ]
    | cons d piece =>
      obtain ⟨here, apart⟩ := List.isChain_cons_cons.mp apart
      have later := ih apart
      rw [List.cons_append] at later
      rw [List.cons_append, List.cons_append, splitOnPair, if_neg here, later]

theorem splitOnPair_of_apart (apart : Apart first second text) :
    splitOnPair first second text = [text] := by
  induction text with
  | nil => rfl
  | cons c text ih =>
    cases text with
    | nil => rfl
    | cons d text =>
      obtain ⟨here, apart⟩ := List.isChain_cons_cons.mp apart
      rw [splitOnPair, if_neg here, ih apart]

/-- Pieces that are joined fall apart again where they were joined, even if one of them ends as the
separator begins. -/
theorem splitOnPair_intercalate (differ : first ≠ second) {pieces : List (List Char)}
    (some : pieces ≠ []) (apart : ∀ piece ∈ pieces, Apart first second piece) :
    splitOnPair first second ([first, second].intercalate pieces) = pieces := by
  induction pieces with
  | nil => exact absurd rfl some
  | cons piece pieces ih =>
    obtain ⟨here, apart⟩ := List.forall_mem_cons.mp apart
    cases pieces with
    | nil => rw [List.intercalate_singleton, splitOnPair_of_apart here]
    | cons next pieces =>
      rw [List.intercalate_cons_cons, List.append_assoc, List.cons_append, List.singleton_append,
        splitOnPair_append differ here, ih (List.cons_ne_nil _ _) apart]

end Pair

/-! ### Lines -/

/-- A line end closes the lines before it. -/
theorem lines_append (text rest : List Char) :
    lines (text ++ '\n' :: rest) = (splitOn '\n' text).map dropReturn ++ lines rest := by
  have last := splitOn_ne_nil '\n' rest
  simp only [lines, splitOn_append, List.dropLast_append_of_ne_nil last, List.map_append,
    List.getLast?_append]
  cases found : (splitOn '\n' rest).getLast? with
  | none => exact absurd (List.getLast?_eq_none_iff.mp found) last
  | some piece =>
    simp only [Option.some_or]
    split <;> simp

@[simp] theorem lines_nil : lines [] = [] := rfl

theorem mem_of_mem_dropReturn {c : Char} (member : c ∈ dropReturn text) : c ∈ text := by
  rw [dropReturn] at member
  split at member
  · exact List.dropLast_subset _ member
  · exact member

/-- A line has characters of the text, and the line feed is none of them. -/
theorem mem_of_mem_lines {line : List Char} {c : Char} (listed : line ∈ lines text)
    (member : c ∈ line) : c ∈ text ∧ c ≠ '\n' := by
  have ended (listed : line ∈ (splitOn '\n' text).dropLast.map dropReturn) :
      c ∈ text ∧ c ≠ '\n' := by
    obtain ⟨piece, cut, rfl⟩ := List.mem_map.mp listed
    exact mem_of_mem_splitOn (List.dropLast_subset _ cut) (mem_of_mem_dropReturn member)
  simp only [lines] at listed
  split at listed
  · exact ended listed
  next last found =>
    split at listed
    · exact ended listed
    · rcases List.mem_append.mp listed with listed | listed
      · exact ended listed
      · rw [List.mem_singleton.mp listed] at member
        exact mem_of_mem_splitOn (List.mem_of_getLast? found) member

/-! ### Blanks -/

/-- A text is trimmed to nothing if it has nothing but blanks. -/
theorem trim_eq_nil_iff : trim text = [] ↔ ∀ c ∈ text, isBlank c = true := by
  have kept : trim text = [] ↔ ∀ c ∈ trimStart text, isBlank c = true :=
    List.rdropWhile_eq_nil_iff
  rw [kept]
  refine ⟨fun blank c member => ?_, fun blank c member => ?_⟩
  · rw [← List.takeWhile_append_dropWhile (p := isBlank) (l := text), List.mem_append] at member
    rcases member with taken | dropped
    · exact List.mem_takeWhile_imp taken
    · exact blank c dropped
  · exact blank c (List.dropWhile_subset _ member)

/-- A text that neither begins nor ends with a blank stays as it is. -/
theorem trim_eq_self_of_ends (first : ∀ c ∈ text.head?, isBlank c = false)
    (last : ∀ c ∈ text.getLast?, isBlank c = false) : trim text = text := by
  have start : trimStart text = text := by
    cases text with
    | nil => rfl
    | cons c rest => simp [trimStart, first c rfl]
  rw [trim, start]
  exact List.rdropWhile_eq_self_iff.mpr fun some => by
    simp [last _ (List.getLast_mem_getLast? some)]

/-- So does a text without blanks. -/
theorem trim_eq_self (solid : ∀ c ∈ text, isBlank c = false) : trim text = text :=
  trim_eq_self_of_ends (fun c first => solid c (List.mem_of_mem_head? first))
    (fun c last => solid c (List.mem_of_mem_getLast? last))

/-- A first character that is not blank stays the first one. -/
theorem head?_trim_cons {c : Char} (solid : isBlank c = false) (text : List Char) :
    (trim (c :: text)).head? = some c := by
  have start : trimStart (c :: text) = c :: text := by simp [trimStart, solid]
  have kept : trim (c :: text) <+: c :: text := by
    rw [trim, start]
    exact List.rdropWhile_prefix _ _
  have some : trim (c :: text) ≠ [] := fun none => by
    have blank := trim_eq_nil_iff.mp none c List.mem_cons_self
    rw [solid] at blank
    cases blank
  obtain ⟨first, rest, trimmed⟩ := List.exists_cons_of_ne_nil some
  rw [trimmed] at kept ⊢
  rw [(List.cons_prefix_cons.mp kept).1]
  rfl

theorem words_append {word : List Char} (some : word ≠ [])
    (solid : ∀ c ∈ word, isBlank c = false) (rest : List Char) :
    words (word ++ ' ' :: rest) = word :: words rest := by
  have blank : isBlank ' ' = true := by decide
  induction word with
  | nil => exact absurd rfl some
  | cons c word ih =>
    obtain ⟨first, solid⟩ := List.forall_mem_cons.mp solid
    cases word with
    | nil => simp [words, first, blank]
    | cons d word =>
      -- A word goes on as long as the character after the next one is solid, too.
      have second : isBlank d = false := solid d List.mem_cons_self
      have later := ih (List.cons_ne_nil d word) solid
      rw [List.cons_append] at later
      rw [List.cons_append, List.cons_append, words]
      simp [first, second, later]

theorem words_of_solid {word : List Char} (some : word ≠ [])
    (solid : ∀ c ∈ word, isBlank c = false) : words word = [word] := by
  induction word with
  | nil => exact absurd rfl some
  | cons c word ih =>
    obtain ⟨first, solid⟩ := List.forall_mem_cons.mp solid
    cases word with
    | nil => simp [words, first]
    | cons d word =>
      have second : isBlank d = false := solid d List.mem_cons_self
      rw [words]
      simp [first, second, ih (List.cons_ne_nil d word) solid]

/-- Words with single blanks between them are read one by one. -/
theorem words_intercalate {pieces : List (List Char)}
    (solid : ∀ piece ∈ pieces, piece ≠ [] ∧ ∀ c ∈ piece, isBlank c = false) :
    words ([' '].intercalate pieces) = pieces := by
  induction pieces with
  | nil => rfl
  | cons piece pieces ih =>
    obtain ⟨first, solid⟩ := List.forall_mem_cons.mp solid
    cases pieces with
    | nil => rw [List.intercalate_singleton, words_of_solid first.1 first.2]
    | cons next pieces =>
      rw [List.intercalate_cons_cons, List.append_assoc, List.singleton_append,
        words_append first.1 first.2, ih solid]

/-! ### Beginnings -/

@[simp] theorem dropPrefix?_append (start rest : List Char) :
    dropPrefix? start (start ++ rest) = some rest := by
  simp [dropPrefix?]

theorem dropPrefix?_of_not_prefix {start : List Char} (differs : ¬ start <+: text) :
    dropPrefix? start text = none :=
  if_neg fun fits => differs (List.isPrefixOf_iff_prefix.mp fits)

theorem dropPrefix?_eq_some {start rest : List Char} (found : dropPrefix? start text = some rest) :
    text = start ++ rest := by
  rw [dropPrefix?] at found
  split at found
  · obtain ⟨rest, rfl⟩ := List.isPrefixOf_iff_prefix.mp ‹_›
    simpa using found
  · cases found

end CommitHistory.Text
