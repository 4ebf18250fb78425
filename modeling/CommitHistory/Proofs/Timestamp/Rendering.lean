/-
# Points in time that are read as they were written

A whole second of the calendar is written as day, letter T, time of day and letter Z, in numbers
of a fixed width. The reader takes at most as many digits as the width allows, so the numbers come
back one by one. A year before 0 or after 9999 carries a sign and is read up to the dash.

## Main definitions

* `Timestamp.IsWhole` — a second of the calendar without a fraction.

## Main results

* `Timestamp.parse?_render` — reading undoes writing.
-/

import CommitHistory.Proofs.Text.Cutting
import CommitHistory.Proofs.Text.Numeral
import CommitHistory.Proofs.Timestamp.Calendar

namespace CommitHistory

open Text

namespace Timestamp

/-- The start of a second that the calendar has. -/
structure IsWhole (time : Timestamp) : Prop where
  first : firstSecond ≤ time.seconds
  last : time.seconds ≤ lastSecond
  nanoseconds : time.nanoseconds = 0

variable {width n : Nat} {digits rest : List Char}

/-! ### Numbers of a fixed width -/

theorem isDigit_of_mem_padded {c : Char} (member : c ∈ padded width n) : c.isDigit = true := by
  rcases List.mem_append.mp member with zero | digit
  · obtain rfl := List.eq_of_mem_replicate zero
    rfl
  · exact Numeral.isDigit_of_mem_ofNat digit

theorem padded_ne_nil (width n : Nat) : padded width n ≠ [] := by
  simp [padded, Numeral.ofNat_ne_nil]

/-- A number that fits is written in exactly as many digits as the width says. -/
theorem length_padded (positive : 0 < width) (bounded : n < 10 ^ width) :
    (padded width n).length = width := by
  have short : (Numeral.ofNat n).length ≤ width :=
    (Nat.length_toDigits_le_iff (by decide) positive).mpr bounded
  simp only [padded, List.length_append, List.length_replicate]
  omega

/-- Zeros before a number do not change it. -/
theorem digitsValue_padded (width n : Nat) : Numeral.digitsValue (padded width n) = n := by
  have value : Nat.ofDigitChars 10 (padded width n) 0 = n := by
    rw [padded, Nat.ofDigitChars_append, Nat.ofDigitChars_replicate_zero, Nat.mul_zero]
    exact Nat.ofDigitChars_ten_toDigits
  exact value

/-- A number is read to its end if it fills the width or no digit follows. -/
theorem number?_append (digit : ∀ c ∈ digits, c.isDigit = true) (some : digits ≠ [])
    (fits : digits.length = width ∨
      digits.length ≤ width ∧ ∀ c ∈ rest.head?, c.isDigit = false) :
    number? width (digits ++ rest) = .some (Numeral.digitsValue digits, rest) := by
  have within : digits.length ≤ width := by omega
  have stop : ∀ c ∈ (rest.take (width - digits.length)).head?, c.isDigit = false := by
    rcases fits with full | ⟨-, stop⟩
    · simp [full]
    · intro c member
      rw [List.head?_take] at member
      split at member
      · cases member
      · exact stop c member
  have taken : ((digits ++ rest).take width).takeWhile Char.isDigit = digits := by
    rw [List.take_append, List.take_of_length_le within]
    exact takeWhile_append_of_stop digit stop
  simp [number?, taken, some]

/-- A field of two digits is read whatever follows. -/
theorem field?_padded (bounded : n < 100) (rest : List Char) :
    field? 2 (padded 2 n ++ rest) = some (n, rest) := by
  have solid : trimStart (padded 2 n ++ rest) = padded 2 n ++ rest := by
    obtain ⟨c, more, text⟩ := List.exists_cons_of_ne_nil (padded_ne_nil 2 n)
    have digit : c.isDigit = true := isDigit_of_mem_padded (text ▸ List.mem_cons_self)
    simp [text, trimStart, isBlank_of_isDigit digit]
  rw [field?, solid, number?_append (fun _ => isDigit_of_mem_padded) (padded_ne_nil 2 n)
    (Or.inl (length_padded (by decide) bounded)), digitsValue_padded]

/-- A mark is read where it stands. -/
theorem mark?_cons {mark : Char} (solid : isBlank mark = false) (rest : List Char) :
    mark? mark (mark :: rest) = some rest := by
  simp [mark?, trimStart, solid]

/-! ### Days -/

/-- A year is read up to the dash behind it, with a sign or without. -/
theorem year?_renderYear (year : Int) (rest : List Char) :
    year? (renderYear year ++ '-' :: rest) = some (year, '-' :: rest) := by
  have stop : ∀ c ∈ ('-' :: rest).head?, c.isDigit = false := by
    rintro c ⟨rfl⟩
    rfl
  have signed (n : Nat) : number? (padded 4 n ++ '-' :: rest).length (padded 4 n ++ '-' :: rest) =
      some (n, '-' :: rest) := by
    rw [number?_append (fun _ => isDigit_of_mem_padded) (padded_ne_nil 4 n)
      (Or.inr ⟨by simp, stop⟩), digitsValue_padded]
  rw [renderYear]
  split
  next short =>
    -- The first character is a digit, so it is no sign.
    have number : number? 4 (padded 4 year.toNat ++ '-' :: rest) =
        some (year.toNat, '-' :: rest) := by
      rw [number?_append (fun _ => isDigit_of_mem_padded) (padded_ne_nil 4 _)
        (Or.inl (length_padded (by decide) (by omega))), digitsValue_padded]
    obtain ⟨c, more, text⟩ := List.exists_cons_of_ne_nil (padded_ne_nil 4 year.toNat)
    have digit : c.isDigit = true := isDigit_of_mem_padded (text ▸ List.mem_cons_self)
    have minus : c ≠ '-' := by rintro rfl; exact absurd digit (by decide)
    have plus : c ≠ '+' := by rintro rfl; exact absurd digit (by decide)
    rw [text] at number ⊢
    simp only [year?, trimStart, List.cons_append, isBlank_of_isDigit digit, List.dropWhile_cons]
    simp only [List.cons_append] at number
    simp [minus, plus, number]
    omega
  next long =>
    -- Behind a sign the digits go on up to the dash.
    by_cases negative : year < 0
    · have solid : trimStart ('-' :: (padded 4 year.natAbs ++ '-' :: rest)) =
          '-' :: (padded 4 year.natAbs ++ '-' :: rest) := by simp [trimStart, isBlank]
      rw [if_pos negative, List.cons_append, year?, solid]
      simp only [signed, Option.map_some]
      congr 2
      omega
    · have solid : trimStart ('+' :: (padded 4 year.natAbs ++ '-' :: rest)) =
          '+' :: (padded 4 year.natAbs ++ '-' :: rest) := by simp [trimStart, isBlank]
      rw [if_neg negative, List.cons_append, year?, solid]
      simp only [signed, Option.map_some]
      congr 2
      omega

/-- A day of the calendar is read whatever follows. -/
theorem day?_renderDay {date : CalendarDay} (valid : date.isValid = true) (rest : List Char) :
    day? (renderDay date ++ rest) = some (date, rest) := by
  have bounds := valid
  simp only [CalendarDay.isValid, Bool.and_eq_true, decide_eq_true_eq] at bounds
  obtain ⟨⟨⟨-, month⟩, -⟩, day⟩ := bounds
  have short := CalendarDay.daysInMonth_le date.year date.month
  have text : renderDay date ++ rest = renderYear date.year ++
      '-' :: (padded 2 date.month ++ '-' :: (padded 2 date.day ++ rest)) := by
    simp [renderDay]
  have dash : isBlank '-' = false := by decide
  simp [day?, text, year?_renderYear, mark?_cons dash, field?_padded, valid,
    show date.month < 100 by omega, show date.day < 100 by omega]

/-! ### The whole -/

/-- A time of day is read up to the letter behind it. -/
theorem clock?_render (hour minute second : Nat) (hours : hour ≤ 23) (minutes : minute ≤ 59)
    (seconds : second ≤ 59) (rest : List Char) :
    clock? (padded 2 hour ++ ':' :: (padded 2 minute ++ ':' :: (padded 2 second ++ 'Z' :: rest))) =
      some ((hour * 3600 + minute * 60 + second, 0), 'Z' :: rest) := by
  have colon : isBlank ':' = false := by decide
  have common : second ≠ 60 := by omega
  simp [clock?, mark?_cons colon, field?_padded, fraction?, hours, minutes, common,
    show hour < 100 by omega, show minute < 100 by omega, show second < 100 by omega,
    show second ≤ 60 by omega]

/-- The text of a whole second, with its parts side by side. -/
theorem IsWhole.render_eq {time : Timestamp} (whole : time.IsWhole) :
    time.render = renderDay time.day ++ 'T' :: (padded 2 (time.secondOfDay / 3600) ++
      ':' :: (padded 2 (time.secondOfDay / 60 % 60) ++
        ':' :: (padded 2 (time.secondOfDay % 60) ++ ['Z']))) := by
  simp [render, renderFraction, whole.nanoseconds]

/-- The calendar has the day of a whole second. -/
theorem IsWhole.isValid_day {time : Timestamp} (whole : time.IsWhole) :
    time.day.isValid = true := by
  have first := whole.first
  have last := whole.last
  rw [firstSecond] at first
  rw [lastSecond] at last
  have days : time.seconds.fdiv 86400 = time.seconds / 86400 :=
    Int.fdiv_eq_ediv_of_nonneg _ (by decide)
  apply CalendarDay.isValid_ofDays
  · rw [days, CalendarDay.firstDay]
    omega
  · rw [days, CalendarDay.lastDay]
    omega

/-- A whole second is its day and the seconds that have passed on it. -/
theorem seconds_eq (time : Timestamp) :
    time.seconds = time.day.toDays * 86400 + time.secondOfDay := by
  have days : time.seconds.fdiv 86400 = time.seconds / 86400 :=
    Int.fdiv_eq_ediv_of_nonneg _ (by decide)
  have rest : time.seconds.fmod 86400 = time.seconds % 86400 :=
    Int.fmod_eq_emod_of_nonneg _ (by decide)
  rw [day, CalendarDay.toDays_ofDays, secondOfDay, days, rest]
  omega

/-- A whole second of the calendar is read as it was written. -/
theorem parse?_render {time : Timestamp} (whole : time.IsWhole) :
    parse? time.render = some time := by
  have small : time.secondOfDay < 86400 := by
    have rest : time.seconds.fmod 86400 = time.seconds % 86400 :=
      Int.fmod_eq_emod_of_nonneg _ (by decide)
    rw [secondOfDay, rest]
    omega
  have clock := clock?_render (time.secondOfDay / 3600) (time.secondOfDay / 60 % 60)
    (time.secondOfDay % 60) (by omega) (by omega) (by omega) []
  have sum : time.secondOfDay / 3600 * 3600 + time.secondOfDay / 60 % 60 * 60 +
      time.secondOfDay % 60 = time.secondOfDay := by omega
  have offset : offset? (trimStart ['Z']) = some (0, []) := by decide
  rw [sum] at clock
  rw [whole.render_eq, parse?, day?_renderDay whole.isValid_day]
  simp only [Option.bind_eq_bind, Option.bind_some, clock, offset]
  have seconds : time.day.toDays * 86400 + (time.secondOfDay : Int) - 0 = time.seconds := by
    rw [Int.sub_zero, ← seconds_eq]
  rw [seconds]
  obtain ⟨first, last, nanoseconds⟩ := whole
  rw [if_pos ⟨by decide, rfl⟩, if_pos ⟨first, last⟩, ← nanoseconds]

/-! ### What minutes are made of -/

theorem mem_renderYear {c : Char} {year : Int} (member : c ∈ renderYear year) :
    c.isDigit = true ∨ c ∈ ['-', '+'] := by
  rw [renderYear] at member
  split at member
  · exact Or.inl (isDigit_of_mem_padded member)
  · rcases List.mem_cons.mp member with sign | digit
    · refine Or.inr ?_
      split at sign <;> simp [sign]
    · exact Or.inl (isDigit_of_mem_padded digit)

/-- Day, hour and minute are written in digits with signs, dashes, a space and a colon. -/
theorem mem_renderMinute {c : Char} {time : Timestamp} (member : c ∈ time.renderMinute) :
    c.isDigit = true ∨ c ∈ ['-', '+', ' ', ':'] := by
  have marked (mark : Char) (known : mark ∈ ['-', '+', ' ', ':']) (same : c ∈ [mark]) :
      c.isDigit = true ∨ c ∈ ['-', '+', ' ', ':'] :=
    Or.inr (List.mem_singleton.mp same ▸ known)
  simp only [renderMinute, renderDay, List.mem_append] at member
  rcases member with
    (((((((year | dash) | month) | dash) | day) | space) | hour) | colon) | minute
  · refine (mem_renderYear year).imp_right fun sign => ?_
    exact List.mem_append_left [' ', ':'] sign
  · exact marked '-' (by decide) dash
  · exact Or.inl (isDigit_of_mem_padded month)
  · exact marked '-' (by decide) dash
  · exact Or.inl (isDigit_of_mem_padded day)
  · exact marked ' ' (by decide) space
  · exact Or.inl (isDigit_of_mem_padded hour)
  · exact marked ':' (by decide) colon
  · exact Or.inl (isDigit_of_mem_padded minute)

end Timestamp

end CommitHistory
