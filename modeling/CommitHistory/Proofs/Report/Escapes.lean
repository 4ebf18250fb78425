/-
# Escape sequences, added and removed

An escape sequence is the escape character, an opening bracket, a number and the letter m. A text
without escape characters that gets escape sequences at any places is left again when the sequences
are removed. Sequences may be added to the parts of a text one by one, so it suffices to look at the
parts that are painted.

An escape character of the text itself could stand before what looks like the rest of a sequence,
which would then be removed with it. That is why the text must have none.

## Main definitions

* `Report.withoutEscapes` — a text without its escape sequences.
* `Report.Decorated` — a text with escape sequences added.

## Main results

* `Report.Decorated.withoutEscapes_eq` — removing the sequences undoes adding them.
* `Report.Decorated.append`, `Report.Decorated.joined` — sequences are added part by part.
-/

import CommitHistory.Proofs.Text.Cutting
import CommitHistory.Report.Text

namespace CommitHistory.Report

open Text

variable {painted plain text : List Char} {c : Char}

/-! ### Removing escape sequences -/

/-- What follows the escape sequence with which a text begins, if it begins with one: the escape
character, an opening bracket, digits and the letter m. -/
def afterEscape? (text : List Char) : Option (List Char) := do
  let rest ← dropPrefix? ['\x1b', '['] text
  if (rest.takeWhile Char.isDigit).isEmpty then none
  else dropPrefix? ['m'] (rest.dropWhile Char.isDigit)

theorem length_afterEscape? {after : List Char} (found : afterEscape? text = some after) :
    after.length < text.length := by
  obtain ⟨rest, start, found⟩ := Option.bind_eq_some_iff.mp found
  split at found
  · cases found
  · have shorter : (rest.dropWhile Char.isDigit).length ≤ rest.length :=
      (List.dropWhile_suffix _).length_le
    rw [dropPrefix?_eq_some found, List.length_append] at shorter
    rw [dropPrefix?_eq_some start, List.length_append]
    simp only [List.length_cons, List.length_nil] at shorter ⊢
    omega

/-- A text without its escape sequences. -/
def withoutEscapes : List Char → List Char
  | [] => []
  | c :: rest =>
    match _found : afterEscape? (c :: rest) with
    | some after => withoutEscapes after
    | none => c :: withoutEscapes rest
termination_by text => text.length
decreasing_by
  · exact length_afterEscape? _found
  · exact Nat.lt_succ_self _

/-- A sequence at the front is passed over. -/
theorem withoutEscapes_of_afterEscape? {after : List Char}
    (found : afterEscape? text = some after) : withoutEscapes text = withoutEscapes after := by
  cases text with
  | nil => cases found
  | cons c rest =>
    rw [withoutEscapes]
    split
    next same => rw [Option.some.inj (same.symm.trans found)]
    next absent => cases absent.symm.trans found

/-- Where no escape character stands no sequence begins. -/
theorem withoutEscapes_cons (other : c ≠ '\x1b') (rest : List Char) :
    withoutEscapes (c :: rest) = c :: withoutEscapes rest := by
  have absent : afterEscape? (c :: rest) = none := by
    rw [afterEscape?, dropPrefix?_of_not_prefix (by simp [Ne.symm other])]
    rfl
  rw [withoutEscapes]
  split
  next found => cases absent.symm.trans found
  · rfl

/-- The number of an escape sequence: one digit at least. -/
structure IsCode (code : List Char) : Prop where
  ne_nil : code ≠ []
  digit : ∀ c ∈ code, c.isDigit = true

theorem afterEscape?_escapeSequence {code : List Char} (number : IsCode code)
    (rest : List Char) : afterEscape? (escapeSequence code ++ rest) = some rest := by
  have stop : ∀ c ∈ ('m' :: rest).head?, c.isDigit = false := by
    rintro c ⟨rfl⟩
    rfl
  have split : escapeSequence code ++ rest = ['\x1b', '['] ++ (code ++ 'm' :: rest) := by
    simp [escapeSequence]
  have letter : dropPrefix? ['m'] ('m' :: rest) = some rest := dropPrefix?_append ['m'] rest
  rw [split, afterEscape?, dropPrefix?_append]
  simp only [takeWhile_append_of_stop number.digit stop,
    dropWhile_append_of_stop number.digit stop, letter, Option.bind_eq_bind, Option.bind_some]
  exact if_neg (by simpa using number.ne_nil)

/-! ### Adding escape sequences -/

theorem joined_cons_cons (separator first second : List Char) (texts : List (List Char)) :
    joined separator (first :: second :: texts) =
      first ++ separator ++ joined separator (second :: texts) := by
  simp [joined]

/-- The first text is the second one with escape sequences added. -/
inductive Decorated : List Char → List Char → Prop where
  | nil : Decorated [] []
  | char {painted plain : List Char} (c : Char) (rest : Decorated painted plain) :
    Decorated (c :: painted) (c :: plain)
  | escape {painted plain code : List Char} (number : IsCode code)
    (rest : Decorated painted plain) : Decorated (escapeSequence code ++ painted) plain

namespace Decorated

theorem refl (text : List Char) : Decorated text text := by
  induction text with
  | nil => exact nil
  | cons c text ih => exact char c ih

theorem append {painted' plain' : List Char} (first : Decorated painted plain)
    (second : Decorated painted' plain') : Decorated (painted ++ painted') (plain ++ plain') := by
  induction first with
  | nil => exact second
  | char c _ ih => exact char c ih
  | escape number _ ih =>
    rw [List.append_assoc]
    exact escape number ih

theorem joined {α : Type} {f g : α → List Char} (separator : List Char)
    (each : ∀ a, Decorated (f a) (g a)) (items : List α) :
    Decorated (joined separator (items.map f)) (joined separator (items.map g)) := by
  induction items with
  | nil => exact nil
  | cons a items ih =>
    cases items with
    | nil => simpa [Report.joined] using each a
    | cons b items =>
      rw [List.map_cons, List.map_cons, joined_cons_cons, List.map_cons, List.map_cons,
        joined_cons_cons]
      exact ((each a).append (refl separator)).append ih

theorem flatMap {α : Type} {f g : α → List Char} (each : ∀ a, Decorated (f a) (g a))
    (items : List α) : Decorated (items.flatMap f) (items.flatMap g) := by
  induction items with
  | nil => exact nil
  | cons a items ih => exact append (each a) ih

/-- Removing the sequences gives the text to which they were added, if that had none. -/
theorem withoutEscapes_eq (decorated : Decorated painted plain) (absent : '\x1b' ∉ plain) :
    withoutEscapes painted = plain := by
  induction decorated with
  | nil => rw [withoutEscapes]
  | char c _ ih =>
    rw [List.mem_cons, not_or] at absent
    rw [withoutEscapes_cons (Ne.symm absent.1), ih absent.2]
  | escape number _ ih =>
    rw [withoutEscapes_of_afterEscape? (afterEscape?_escapeSequence number _), ih absent]

/-- The sequences bring no line feed. -/
theorem newline_not_mem (decorated : Decorated painted plain) (absent : '\n' ∉ plain) :
    '\n' ∉ painted := by
  induction decorated with
  | nil => exact absent
  | char c _ ih =>
    rw [List.mem_cons, not_or] at absent ⊢
    exact ⟨absent.1, ih absent.2⟩
  | escape number _ ih =>
    have digit : '\n' ∉ _ := fun member => absurd (number.digit '\n' member) (by decide)
    simp [escapeSequence, digit, ih absent]

end Decorated

end CommitHistory.Report
