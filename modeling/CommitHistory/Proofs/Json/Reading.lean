/-
# JSON texts that are read as they were written

The compact and the indented text of a value differ in blanks only, so both are taken as one kind
of writer: blanks before each item and before a closing bracket, and blanks behind a colon. The
reader passes over the blanks, and the first character of a value tells what it is. Strings come
back because every character that has to be escaped is escaped in a way that the reader undoes,
and whole numbers because no digit follows them.

## Main definitions

* `Value.Exact` — the values whose text says all about them.
* `Style` — a way to write values.

## Main results

* `read?_write` — reading undoes writing, compactly and with one item a line.
* `newline_notMem_compact` — the compact text is one line.
-/

import CommitHistory.Json.Reader
import CommitHistory.Json.Writer
import CommitHistory.Proofs.Text.Cutting
import CommitHistory.Proofs.Text.Numeral

namespace CommitHistory.Json

open Text

/-- A value made of texts and of whole numbers of 64 bits, whose names are texts. -/
inductive Value.Exact : Value → Prop
  | null : Exact .null
  | bool (value : Bool) : Exact (.bool value)
  | integer {n : Int} (low : -(Numeral.maxInt + 1 : Nat) ≤ n) (high : n ≤ Numeral.maxCount) :
      Exact (.integer n)
  | text (value : String) : Exact (.text value)
  | list {items : List Value} (each : ∀ value ∈ items, Exact value) : Exact (.list items)
  | record {fields : List (String × Value)} (each : ∀ field ∈ fields, Exact field.2) :
      Exact (.record fields)

variable {value : Value} {rest blanks : List Char} {c : Char}

/-! ### Strings -/

theorem hexValue?_hexDigit {n : Nat} (bounded : n < 16) : hexValue? (hexDigit n) = some n := by
  have all : ∀ n < 16, hexValue? (hexDigit n) = some n := by decide
  exact all n bounded

/-- A character inside a string is read as it was written. -/
theorem parts?_escape (c : Char) (rest : List Char) :
    parts? (escape c ++ rest) =
      (parts? rest).map fun found => (.char c :: found.1, found.2) := by
  unfold escape
  -- The short escapes first, each with its own letter.
  iterate 7
    split
    next same => subst same; simp [parts?, shortEscape?]
  split
  next low =>
    have high := hexValue?_hexDigit (n := c.toNat / 16) (by omega)
    have last := hexValue?_hexDigit (n := c.toNat % 16) (by omega)
    have unit : unit? '0' '0' (hexDigit (c.toNat / 16)) (hexDigit (c.toNat % 16)) =
        some c.toNat := by
      have zero : hexValue? '0' = some 0 := by decide
      simp only [unit?, zero, high, last, Option.bind_eq_bind, Option.bind_some]
      congr 1
      omega
    have part : Part.ofUnit c.toNat = .char c := by
      have plain : (isHighHalf c.toNat || isLowHalf c.toNat) = false := by
        simp [isHighHalf, isLowHalf]
        omega
      simp [Part.ofUnit, plain]
    simp [parts?, unit, part]
  next high =>
    -- All other characters stand for themselves, since the mark and the backslash are done.
    rename_i mark backslash _ _ _ _ _
    rw [List.singleton_append, parts?.eq_def]
    split <;> grind

theorem parts?_flatMap_escape (text rest : List Char) :
    parts? (text.flatMap escape ++ '"' :: rest) = some (text.map .char, rest) := by
  induction text with
  | nil => simp [parts?]
  | cons c text ih => simp [List.append_assoc, parts?_escape, ih]

theorem join?_map_char (text : List Char) : Part.join? (text.map .char) = some text := by
  induction text with
  | nil => rfl
  | cons c text ih => simp [Part.join?, ih]

/-- A string is read behind its opening quotation mark. -/
theorem stringBody?_quote (s : String) (rest : List Char) :
    stringBody? (s.toList.flatMap escape ++ '"' :: rest) = some (some s.toList, rest) := by
  simp [stringBody?, parts?_flatMap_escape, join?_map_char]

theorem quote_append (s : String) (rest : List Char) :
    quote s ++ rest = '"' :: (s.toList.flatMap escape ++ '"' :: rest) := by
  simp [quote]

/-! ### Numbers -/

/-- What follows a value does not go on with a number. -/
def Stops (rest : List Char) : Prop :=
  ∀ c ∈ rest.head?, c.isDigit = false ∧ c ≠ '.' ∧ c ≠ 'e' ∧ c ≠ 'E'

/-- A number of more than one digit does not begin with zero. -/
theorem eq_zero_of_head?_ofNat {n : Nat} (zero : (Numeral.ofNat n).head? = some '0') : n = 0 := by
  induction n using Nat.strongRecOn with
  | ind n ih =>
    by_cases small : n < 10
    · rw [Numeral.ofNat, Nat.toDigits_of_lt_base small] at zero
      simpa using zero
    · -- The first digit of a longer number is that of the number without its last digit.
      have shorter : Numeral.ofNat n = Numeral.ofNat (n / 10) ++ [(n % 10).digitChar] :=
        Nat.toDigits_of_base_le (by decide) (Nat.le_of_not_lt small)
      rw [shorter, List.head?_append_of_ne_nil _ (Numeral.ofNat_ne_nil _)] at zero
      have none := ih (n / 10) (by omega) zero
      omega

theorem wholePart?_ofNat (n : Nat) (stops : Stops rest) :
    wholePart? (Numeral.ofNat n ++ rest) = some (Numeral.ofNat n, rest) := by
  have digits : ∀ c ∈ Numeral.ofNat n, c.isDigit = true := fun _ => Numeral.isDigit_of_mem_ofNat
  have stop : ∀ c ∈ rest.head?, c.isDigit = false := fun c member => (stops c member).1
  have taken := takeWhile_append_of_stop digits stop
  have left := dropWhile_append_of_stop digits stop
  by_cases zero : n = 0
  · subst zero
    have text : Numeral.ofNat 0 = ['0'] := by decide
    have none : rest.takeWhile Char.isDigit = [] := by
      have empty : ∀ c ∈ ([] : List Char), c.isDigit = true := by simp
      simpa using takeWhile_append_of_stop empty stop
    simp [text, wholePart?, none]
  · obtain ⟨c, more, text⟩ := List.exists_cons_of_ne_nil (Numeral.ofNat_ne_nil n)
    have other : c ≠ '0' := by
      rintro rfl
      exact zero (eq_zero_of_head?_ofNat (by rw [text]; rfl))
    rw [text, List.cons_append] at taken left ⊢
    rw [wholePart?]
    · simp only [taken, left, List.isEmpty_cons, Bool.false_eq_true, if_false]
    · intro rest' same
      exact other (List.cons.inj same).1

theorem pointPart?_of_stops (stops : Stops rest) : pointPart? rest = some ([], rest) := by
  cases rest with
  | nil => rfl
  | cons c rest =>
    obtain ⟨-, point, -⟩ := stops c rfl
    simp [pointPart?, point]

theorem exponentPart?_of_stops (stops : Stops rest) : exponentPart? rest = some ([], rest) := by
  cases rest with
  | nil => rfl
  | cons c rest =>
    obtain ⟨-, -, small, capital⟩ := stops c rfl
    simp [exponentPart?, small, capital]

/-- A whole number is read to its end. -/
theorem number?_ofInt {n : Int} (low : -(Numeral.maxInt + 1 : Nat) ≤ n)
    (high : n ≤ Numeral.maxCount) (stops : Stops rest) :
    number? (Numeral.ofInt n ++ rest) = some (.integer n, rest) := by
  cases n with
  | ofNat n =>
    have positive : ((Numeral.ofNat n ++ rest).head? == some '-') = false := by
      obtain ⟨c, more, text⟩ := List.exists_cons_of_ne_nil (Numeral.ofNat_ne_nil n)
      have digit : c.isDigit = true := Numeral.isDigit_of_mem_ofNat (text ▸ List.mem_cons_self)
      have other : c ≠ '-' := by rintro rfl; exact absurd digit (by decide)
      simp [text, other]
    have bounded : n ≤ Numeral.maxCount := Int.ofNat_le.mp high
    simp only [number?, Numeral.ofInt, positive, Bool.false_eq_true, if_false,
      wholePart?_ofNat n stops, pointPart?_of_stops stops, exponentPart?_of_stops stops,
      Option.bind_eq_bind, Option.bind_some]
    simp [integer, Numeral.digitsValue_ofNat, bounded]
  | negSucc n =>
    have bounded : n ≤ Numeral.maxInt := by omega
    simp [number?, Numeral.ofInt, wholePart?_ofNat (n + 1) stops, pointPart?_of_stops stops,
      exponentPart?_of_stops stops, integer, Numeral.digitsValue_ofNat, bounded, Int.negSucc_eq]

/-! ### Scalars -/

/-- A value that is neither a list nor a record. -/
def Value.isScalar : Value → Bool
  | .list _ | .record _ | .misnamed => false
  | _ => true

/-- The first character of a scalar opens nothing and closes nothing. -/
def Begins (c : Char) : Prop := isSpace c = false ∧ c ≠ '[' ∧ c ≠ '{' ∧ c ≠ ']' ∧ c ≠ '}'

theorem Begins.of_isDigit (digit : c.isDigit = true) : Begins c := by
  refine ⟨?_, ?_, ?_, ?_, ?_⟩
  · rw [Bool.eq_false_iff]
    intro blank
    simp only [isSpace, Bool.or_eq_true, beq_iff_eq, or_assoc] at blank
    rcases blank with rfl | rfl | rfl | rfl <;> exact absurd digit (by decide)
  all_goals
    rintro rfl
    exact absurd digit (by decide)

theorem exists_begins_scalar (exact : value.Exact) (isScalar : value.isScalar = true) :
    ∃ c more, scalar value = c :: more ∧ Begins c := by
  cases exact with
  | null => exact ⟨'n', _, rfl, by simp [Begins, isSpace]⟩
  | bool value =>
    cases value with
    | false => exact ⟨'f', "alse".toList, by simp [scalar], by simp [Begins, isSpace]⟩
    | true => exact ⟨'t', "rue".toList, by simp [scalar], by simp [Begins, isSpace]⟩
  | @integer n _ _ =>
    cases n with
    | ofNat n =>
      obtain ⟨c, more, text⟩ := List.exists_cons_of_ne_nil (Numeral.ofNat_ne_nil n)
      exact ⟨c, more, text, .of_isDigit (Numeral.isDigit_of_mem_ofNat (text ▸ List.mem_cons_self))⟩
    | negSucc n => exact ⟨'-', _, rfl, by simp [Begins, isSpace]⟩
  | text s => exact ⟨'"', _, rfl, by simp [Begins, isSpace]⟩
  | list _ | record _ => cases isScalar

/-- A scalar is read to its end. -/
theorem scalar?_scalar (exact : value.Exact) (isScalar : value.isScalar = true)
    (stops : Stops rest) : scalar? (scalar value ++ rest) = some (value, rest) := by
  cases exact with
  | null => simp [scalar, scalar?, dropPrefix?]
  | bool value => cases value <;> simp [scalar, scalar?, dropPrefix?]
  | @integer n low high =>
    have number := number?_ofInt low high stops
    -- A number begins with a digit or a minus sign, so it is no word and no string.
    obtain ⟨c, more, text⟩ : ∃ c more, Numeral.ofInt n = c :: more :=
      List.exists_cons_of_ne_nil (by cases n <;> simp [Numeral.ofInt, Numeral.ofNat_ne_nil])
    have first : c = '-' ∨ c.isDigit = true := Numeral.mem_ofInt (text ▸ List.mem_cons_self)
    rw [text, List.cons_append] at number
    rw [scalar, text, List.cons_append, scalar?]
    · exact number
    all_goals
      intro more' same
      obtain rfl := (List.cons.inj same).1
      exact absurd first (by decide)
  | text s =>
    rw [scalar, quote_append, scalar?, stringBody?_quote]
    simp
  | list _ | record _ => cases isScalar

/-! ### Lists and records -/

/-- A way to write values: with blanks before each item or field and before the bracket that
closes a list or a record, and with blanks behind colons. The number is the depth. -/
structure Style where
  whole : Nat → Value → List Char
  items : Nat → List Value → List Char
  fields : Nat → List (String × Value) → List Char
  line : Nat → List Char
  colon : List Char
  isSpace_of_mem_line : ∀ depth, ∀ c ∈ line depth, isSpace c = true
  isSpace_of_mem_colon : ∀ c ∈ colon, isSpace c = true
  whole_scalar : ∀ depth value, value.isScalar = true → whole depth value = scalar value
  whole_no_items : ∀ depth, whole depth (.list []) = ['[', ']']
  whole_list : ∀ depth first rest, whole depth (.list (first :: rest)) =
    '[' :: (items (depth + 1) (first :: rest) ++ (line depth ++ [']']))
  whole_no_fields : ∀ depth, whole depth (.record []) = ['{', '}']
  whole_record : ∀ depth first rest, whole depth (.record (first :: rest)) =
    '{' :: (fields (depth + 1) (first :: rest) ++ (line depth ++ ['}']))
  items_single : ∀ depth value, items depth [value] = line depth ++ whole depth value
  items_cons : ∀ depth value next rest, items depth (value :: next :: rest) =
    line depth ++ (whole depth value ++ ',' :: items depth (next :: rest))
  fields_single : ∀ depth name value, fields depth [(name, value)] =
    line depth ++ (quote name ++ ':' :: (colon ++ whole depth value))
  fields_cons : ∀ depth name value next rest, fields depth ((name, value) :: next :: rest) =
    line depth ++ (quote name ++ ':' :: (colon ++ (whole depth value ++
      ',' :: fields depth (next :: rest))))

namespace Style

theorem isSpace_of_mem_newLine {depth : Nat} (member : c ∈ newLine depth) : isSpace c = true := by
  rcases List.mem_cons.mp member with rfl | blank
  · decide
  · obtain rfl := List.eq_of_mem_replicate blank
    decide

/-- Without blanks. -/
def compact : Style where
  whole _ := Json.compact
  items _ := compactItems
  fields _ := compactFields
  line _ := []
  colon := []
  isSpace_of_mem_line _ c member := by cases member
  isSpace_of_mem_colon c member := by cases member
  whole_scalar _ value isScalar := by cases value <;> first | rfl | cases isScalar
  whole_no_items _ := by simp [Json.compact, compactItems]
  whole_list _ _ _ := by simp [Json.compact]
  whole_no_fields _ := by simp [Json.compact, compactFields]
  whole_record _ _ _ := by simp [Json.compact]
  items_single _ _ := by simp [compactItems]
  items_cons _ _ _ _ := by simp [compactItems]
  fields_single _ _ _ := by simp [compactFields]
  fields_cons _ _ _ _ _ := by simp [compactFields]

/-- With each item and field on a line of its own. -/
def pretty : Style where
  whole := Json.pretty
  items := prettyItems
  fields := prettyFields
  line := newLine
  colon := [' ']
  isSpace_of_mem_line _ _ := isSpace_of_mem_newLine
  isSpace_of_mem_colon c member := by obtain rfl := List.mem_singleton.mp member; decide
  whole_scalar _ value isScalar := by cases value <;> first | rfl | cases isScalar
  whole_no_items _ := by simp [Json.pretty]
  whole_list _ _ _ := by simp [Json.pretty]
  whole_no_fields _ := by simp [Json.pretty]
  whole_record _ _ _ := by simp [Json.pretty]
  items_single _ _ := by simp [prettyItems]
  items_cons _ _ _ _ := by simp [prettyItems]
  fields_single _ _ _ := by simp [prettyFields]
  fields_cons _ _ _ _ _ := by simp [prettyFields]

/-- The style of a layout. -/
def ofLayout : Layout → Style
  | .compact => compact
  | .pretty => pretty

theorem whole_ofLayout (layout : Layout) (value : Value) :
    (ofLayout layout).whole 0 value = write layout value := by
  cases layout <;> rfl

end Style

theorem skipSpace_append (space : ∀ c ∈ blanks, isSpace c = true) (rest : List Char) :
    skipSpace (blanks ++ rest) = skipSpace rest :=
  List.dropWhile_append_of_pos space

theorem skipSpace_cons (solid : isSpace c = false) : skipSpace (c :: rest) = c :: rest := by
  simp [skipSpace, solid]

/-- Blanks before a value are passed over. -/
theorem value?_append (space : ∀ c ∈ blanks, isSpace c = true) (bound : Nat) (rest : List Char) :
    value? bound (blanks ++ rest) = value? bound rest := by
  cases bound with
  | zero => rfl
  | succ bound => rw [value?, value?, skipSpace_append space]

/-- A number ends at a blank, at a comma and at a bracket. -/
theorem Stops.append (space : ∀ c ∈ blanks, isSpace c = true) (stops : Stops rest) :
    Stops (blanks ++ rest) := by
  cases blanks with
  | nil => exact stops
  | cons first blanks =>
    rintro c ⟨rfl⟩
    have blank := space _ List.mem_cons_self
    simp only [isSpace, Bool.or_eq_true, beq_iff_eq, or_assoc] at blank
    rcases blank with rfl | rfl | rfl | rfl <;> decide

theorem Stops.mark (mark : c ∈ [',', ']', '}']) (rest : List Char) : Stops (c :: rest) := by
  rintro _ ⟨rfl⟩
  simp only [List.mem_cons, List.not_mem_nil, or_false] at mark
  rcases mark with rfl | rfl | rfl <;> decide

variable (style : Style)

/-- A value is written so that it is read to its end at every depth, whatever follows it, if only
the bound grows with the text. -/
def Style.Reads (value : Value) : Prop :=
  ∀ depth bound rest, Stops rest → 2 * (style.whole depth value).length ≤ bound →
    value? bound (style.whole depth value ++ rest) = some (value, rest)

variable {style} {items : List Value} {fields : List (String × Value)}

/-- The text of a value begins with no blank and no bracket that closes. -/
theorem Style.exists_whole_eq_cons (style : Style) (exact : value.Exact) (depth : Nat) :
    ∃ c more, style.whole depth value = c :: more ∧ isSpace c = false ∧ c ≠ ']' := by
  cases isScalar : value.isScalar with
  | true =>
    obtain ⟨c, more, text, solid, -, -, other, -⟩ := exists_begins_scalar exact isScalar
    exact ⟨c, more, (style.whole_scalar depth value isScalar).trans text, solid, other⟩
  | false =>
    cases exact with
    | @list items _ =>
      cases items with
      | nil => exact ⟨_, _, style.whole_no_items depth, by decide, by decide⟩
      | cons first rest => exact ⟨_, _, style.whole_list depth first rest, by decide, by decide⟩
    | @record fields _ =>
      cases fields with
      | nil => exact ⟨_, _, style.whole_no_fields depth, by decide, by decide⟩
      | cons first rest => exact ⟨_, _, style.whole_record depth first rest, by decide, by decide⟩
    | _ => cases isScalar

theorem Style.reads_scalar (style : Style) (exact : value.Exact)
    (isScalar : value.isScalar = true) : style.Reads value := by
  intro depth bound rest stops enough
  rw [style.whole_scalar depth value isScalar] at enough ⊢
  obtain ⟨c, more, text, solid, list, record, -, -⟩ := exists_begins_scalar exact isScalar
  have read := scalar?_scalar exact isScalar stops
  rw [text] at enough read ⊢
  rw [List.cons_append] at read ⊢
  -- The bound is not zero, since the text is not empty.
  obtain ⟨bound, rfl⟩ : ∃ smaller, bound = smaller + 1 := ⟨bound - 1, by simp at enough; omega⟩
  rw [value?, skipSpace_cons solid]
  split
  · next same => exact absurd (List.cons.inj same).1 list
  · next same => exact absurd (List.cons.inj same).1 record
  · exact read

/-- Items that are read one by one are read as a list up to the bracket that closes it. -/
theorem Style.items?_items (each : ∀ value ∈ items, value.Exact ∧ style.Reads value)
    (some : items ≠ []) (depth bound : Nat) (space : ∀ c ∈ blanks, isSpace c = true)
    (enough : 2 * (style.items depth items).length + 1 ≤ bound) :
    items? bound (style.items depth items ++ (blanks ++ ']' :: rest)) = .some (items, rest) := by
  induction items generalizing bound with
  | nil => exact absurd rfl some
  | cons value more ih =>
    obtain ⟨bound, rfl⟩ : ∃ smaller, bound = smaller + 1 := ⟨bound - 1, by omega⟩
    obtain ⟨-, reads⟩ := each value List.mem_cons_self
    have line := style.isSpace_of_mem_line depth
    cases more with
    | nil =>
      rw [style.items_single] at enough ⊢
      have stops : Stops (blanks ++ ']' :: rest) := .append space (.mark (by simp) rest)
      rw [List.append_assoc, items?, value?_append line,
        reads depth bound _ stops (by simp at enough; omega)]
      simp [skipSpace_append space, skipSpace_cons (c := ']') (by decide)]
    | cons next more =>
      rw [style.items_cons] at enough ⊢
      have shorter := ih (fun value member => each value (List.mem_cons_of_mem _ member))
        (List.cons_ne_nil _ _) bound (by simp at enough ⊢; omega)
      rw [List.append_assoc, List.append_assoc, List.cons_append, items?, value?_append line,
        reads depth bound _ (.mark (by simp) _) (by simp at enough; omega)]
      simp [skipSpace_cons (c := ',') (by decide), shorter]

/-- The name of a field is read with the colon behind it. -/
theorem fieldName?_quote (space : ∀ c ∈ blanks, isSpace c = true) (name : String)
    (rest : List Char) :
    fieldName? (blanks ++ (quote name ++ ':' :: rest)) = some (some name, rest) := by
  rw [fieldName?, skipSpace_append space, quote_append, skipSpace_cons (by decide)]
  simp [stringBody?_quote, skipSpace_cons (c := ':') (by decide)]

theorem ofFields_map_some (fields : List (String × Value)) :
    ofFields (fields.map fun field => (some field.1, field.2)) = .record fields := by
  have names : (fields.map fun field => (some field.1, field.2)).mapM
      (fun field : Option String × Value => field.1.map (·, field.2)) = some fields := by
    induction fields with
    | nil => rfl
    | cons field fields ih => simp [ih]
  rw [ofFields, names]

/-- Fields that are read one by one are read as a record up to the brace that closes it. -/
theorem Style.fields?_fields (each : ∀ field ∈ fields, style.Reads field.2)
    (some : fields ≠ []) (depth bound : Nat) (space : ∀ c ∈ blanks, isSpace c = true)
    (enough : 2 * (style.fields depth fields).length + 1 ≤ bound) :
    fields? bound (style.fields depth fields ++ (blanks ++ '}' :: rest)) =
      .some (fields.map fun field => (.some field.1, field.2), rest) := by
  induction fields generalizing bound with
  | nil => exact absurd rfl some
  | cons field more ih =>
    obtain ⟨name, value⟩ := field
    obtain ⟨bound, rfl⟩ : ∃ smaller, bound = smaller + 1 := ⟨bound - 1, by omega⟩
    have reads : style.Reads value := each (name, value) List.mem_cons_self
    have line := style.isSpace_of_mem_line depth
    have colon := style.isSpace_of_mem_colon
    cases more with
    | nil =>
      rw [style.fields_single] at enough ⊢
      have stops : Stops (blanks ++ '}' :: rest) := .append space (.mark (by simp) rest)
      rw [List.append_assoc, List.append_assoc, List.cons_append, List.append_assoc, fields?,
        fieldName?_quote line]
      simp only [value?_append colon]
      rw [reads depth bound _ stops (by simp at enough; omega)]
      simp [skipSpace_append space, skipSpace_cons (c := '}') (by decide)]
    | cons next more =>
      rw [style.fields_cons] at enough ⊢
      have shorter := ih (fun field member => each field (List.mem_cons_of_mem _ member))
        (List.cons_ne_nil _ _) bound (by simp at enough ⊢; omega)
      rw [List.append_assoc, List.append_assoc, List.cons_append, List.append_assoc,
        List.append_assoc, List.cons_append, fields?, fieldName?_quote line]
      simp only [value?_append colon]
      rw [reads depth bound _ (.mark (by simp) _) (by simp at enough; omega)]
      simp [skipSpace_cons (c := ',') (by decide), shorter]

/-! ### Whole texts -/

/-- A bound that is large enough for a text is not zero. -/
theorem Style.exists_bound (style : Style) (exact : value.Exact) {depth bound : Nat}
    (enough : 2 * (style.whole depth value).length ≤ bound) : ∃ smaller, bound = smaller + 1 := by
  obtain ⟨c, more, text, -⟩ := style.exists_whole_eq_cons exact depth
  exact ⟨bound - 1, by simp [text] at enough; omega⟩

theorem Style.reads_list (each : ∀ value ∈ items, value.Exact ∧ style.Reads value) :
    style.Reads (.list items) := by
  intro depth bound rest stops enough
  obtain ⟨bound, rfl⟩ := style.exists_bound (.list fun value member => (each value member).1) enough
  cases items with
  | nil =>
    rw [style.whole_no_items]
    simp [value?, skipSpace_cons (c := '[') (by decide), skipSpace_cons (c := ']') (by decide)]
  | cons first more =>
    rw [style.whole_list] at enough ⊢
    have read : items? bound (style.items (depth + 1) (first :: more) ++
        (style.line depth ++ ']' :: rest)) = some (first :: more, rest) :=
      style.items?_items each (List.cons_ne_nil first more) (depth + 1) bound
        (style.isSpace_of_mem_line depth) (by simp at enough ⊢; omega)
    -- What comes first behind the bracket is the text of an item, so the list is not empty.
    obtain ⟨c, rest', text, solid, other⟩ :=
      style.exists_whole_eq_cons (each first List.mem_cons_self).1 (depth + 1)
    obtain ⟨tail, items⟩ : ∃ tail, style.items (depth + 1) (first :: more) =
        style.line (depth + 1) ++ c :: tail := by
      cases more with
      | nil => exact ⟨rest', by rw [style.items_single, text]⟩
      | cons next more => exact ⟨_, by rw [style.items_cons, text, List.cons_append]⟩
    have space := style.isSpace_of_mem_line (depth + 1)
    rw [items, List.append_assoc, List.cons_append] at read
    simp only [items, List.cons_append, List.append_assoc, List.nil_append]
    rw [value?, skipSpace_cons (by decide)]
    simp only [skipSpace_append space, skipSpace_cons solid]
    split
    · next same => exact absurd (List.cons.inj same).1 other
    · rw [read, Option.map_some]

theorem Style.reads_record (exact : (Value.record fields).Exact)
    (each : ∀ field ∈ fields, style.Reads field.2) : style.Reads (.record fields) := by
  intro depth bound rest stops enough
  obtain ⟨bound, rfl⟩ := style.exists_bound exact enough
  cases fields with
  | nil =>
    rw [style.whole_no_fields]
    simp [value?, skipSpace_cons (c := '{') (by decide), skipSpace_cons (c := '}') (by decide)]
  | cons first more =>
    rw [style.whole_record] at enough ⊢
    have read : fields? bound (style.fields (depth + 1) (first :: more) ++
        (style.line depth ++ '}' :: rest)) =
          some ((first :: more).map fun field => (some field.1, field.2), rest) :=
      style.fields?_fields each (List.cons_ne_nil first more) (depth + 1) bound
        (style.isSpace_of_mem_line depth) (by simp at enough ⊢; omega)
    -- A field begins with a quotation mark.
    obtain ⟨tail, fields⟩ : ∃ tail, style.fields (depth + 1) (first :: more) =
        style.line (depth + 1) ++ '"' :: tail := by
      cases more with
      | nil => exact ⟨_, by rw [style.fields_single, quote_append]⟩
      | cons next more => exact ⟨_, by rw [style.fields_cons, quote_append]⟩
    have space := style.isSpace_of_mem_line (depth + 1)
    rw [fields, List.append_assoc, List.cons_append] at read
    simp only [fields, List.cons_append, List.append_assoc, List.nil_append]
    rw [value?, skipSpace_cons (by decide)]
    simp only [skipSpace_append space, skipSpace_cons (c := '"') (by decide)]
    split
    · next same => exact absurd (List.cons.inj same).1 (by decide)
    · rw [read, Option.map_some, ofFields_map_some]

/-- Every value made of texts and whole numbers is read as it was written. -/
theorem Style.reads_of_exact (style : Style) (exact : value.Exact) : style.Reads value := by
  induction exact with
  | null => exact style.reads_scalar .null rfl
  | bool value => exact style.reads_scalar (.bool value) rfl
  | integer low high => exact style.reads_scalar (.integer low high) rfl
  | text value => exact style.reads_scalar (.text value) rfl
  | list each ih => exact style.reads_list fun value member => ⟨each value member, ih value member⟩
  | record each ih => exact style.reads_record (.record each) ih

/-- Reading undoes writing, in both layouts. -/
theorem read?_write (layout : Layout) (exact : value.Exact) :
    read? (write layout value) = some value := by
  have reads := (Style.ofLayout layout).reads_of_exact exact 0
    (2 * (write layout value).length + 2) [] (by simp [Stops])
  rw [Style.whole_ofLayout, List.append_nil] at reads
  rw [read?, reads (by omega)]
  rfl

/-! ### One line -/

theorem newline_notMem_escape (c : Char) : '\n' ∉ escape c := by
  have digits : ∀ n < 16, hexDigit n ≠ '\n' := by decide
  unfold escape
  iterate 7
    split
    · decide
  split
  · have high := digits (c.toNat / 16) (by omega)
    have last := digits (c.toNat % 16) (by omega)
    simp [Ne.symm high, Ne.symm last]
  · rename_i other _ _ _
    simpa using Ne.symm other

theorem newline_notMem_quote (s : String) : '\n' ∉ quote s := by
  simp [quote, newline_notMem_escape]

theorem newline_notMem_scalar (exact : value.Exact) : '\n' ∉ scalar value := by
  cases exact with
  | null => simp [scalar]
  | bool value => cases value <;> simp [scalar]
  | integer _ _ =>
    intro member
    rcases Numeral.mem_ofInt member with same | digit
    · exact absurd same (by decide)
    · exact absurd digit (by decide)
  | text s => exact newline_notMem_quote s
  | list _ | record _ => simp [scalar]

/-- The compact text of a value is one line. -/
theorem newline_notMem_compact (exact : value.Exact) : '\n' ∉ compact value := by
  induction exact with
  | null => exact newline_notMem_scalar .null
  | bool value => exact newline_notMem_scalar (.bool value)
  | integer low high => exact newline_notMem_scalar (.integer low high)
  | text value => exact newline_notMem_scalar (.text value)
  | @list items each ih =>
    clear each
    have each : '\n' ∉ compactItems items := by
      induction items with
      | nil => simp [compactItems]
      | cons value more ih' =>
        have first := ih value List.mem_cons_self
        have others := ih' fun value member => ih value (List.mem_cons_of_mem _ member)
        cases more <;> simp_all [compactItems]
    simp [compact, each]
  | @record fields each ih =>
    clear each
    have each : '\n' ∉ compactFields fields := by
      induction fields with
      | nil => simp [compactFields]
      | cons field more ih' =>
        have first := ih field List.mem_cons_self
        have others := ih' fun field member => ih field (List.mem_cons_of_mem _ member)
        have name := newline_notMem_quote field.1
        cases more <;> simp_all [compactFields]
    simp [compact, each]

end CommitHistory.Json
