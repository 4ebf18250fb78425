/-
# Directives of a log filter

A directive sets a level for a target, for spans with a name or a field, or for
everything. Directives are ordered by what they are about, the less specific first.

The marks of a directive are looked for in its text without the blanks around it. The
parts between them are counted off in bytes, and the counting begins at the blanks.

## Main definitions

* `LogFilter.Directive`, `LogFilter.Directive.parse?` — directives and their text.
* `LogFilter.Directive.order` — which directives are more specific.
-/

import CommitHistory.Settings.LogFilter.FieldValue
import CommitHistory.Settings.LogLevel
import CommitHistory.Text.Utf8

namespace CommitHistory.LogFilter

open Text

/-- What a directive lets through: nothing, or a level and all quieter ones. -/
abbrev Threshold : Type := Option LogLevel

/-- The name of a threshold. -/
def thresholdName : Threshold → String
  | none => "off"
  | some level => level.name

/-- The threshold that a text names. -/
def threshold? (text : List Char) : Option Threshold :=
  if text.map Char.toLower = "off".toList ∨ Numeral.count? text = some 0 then some none
  else (LogLevel.ofText? text).map some

/-- A field of a span, with the value that it must have if there is one. -/
structure Field where
  name : List Char
  value : Option FieldValue
deriving DecidableEq, Repr

namespace Field

/-- The field that a text names. Nothing behind a second equals sign counts. -/
def parse? (text : List Char) : Option Field :=
  match splitOn '=' text with
  | [] => none
  | [name] => if name.isEmpty then none else some { name, value := none }
  | name :: value :: _ => (FieldValue.parse? value).map fun value => { name, value := some value }

/-- The text of a field. -/
def text (field : Field) : List Char :=
  match field.value with
  | none => field.name
  | some value => field.name ++ '=' :: value.text

/-- The order of values where there may be none. -/
def valueOrder : Option FieldValue → Option FieldValue → Ordering
  | some a, some b => a.order b
  | a, b => compare a.isSome b.isSome

/-- The order of fields: those with a value are the more specific ones. -/
def order (first second : Field) : Ordering :=
  (compare first.value.isSome second.value.isSome).then <|
    (compare first.name second.name).then (valueOrder first.value second.value)

end Field

/-- A directive: the target, the name and a field of the span, and the threshold. -/
structure Directive where
  target : Option (List Char)
  span : Option (List Char)
  field : Option Field
  threshold : Threshold
deriving DecidableEq, Repr

namespace Directive

/-- The directive that lets everything through. -/
def everything : Directive :=
  { target := none, span := none, field := none, threshold := some .trace }

/-- What is being read of a directive, with the place where it began. -/
inductive Part where
  | start
  /-- A threshold, or a target before an equals sign or a span. -/
  | word (start : Nat)
  | span (start : Nat)
  | field (start : Nat)
  | afterField
  | afterSpan
  | threshold (start : Nat)
deriving DecidableEq, Repr

/-- Whether a directive can begin with a character. -/
def canBegin (c : Char) : Bool := c == '-' || c == ':' || c == '_' || isAlphanumeric c

/-- A text, or none if it is empty. -/
def nonempty (text : List Char) : Option (List Char) := if text.isEmpty then none else some text

/-- Reads the character at a place. `cut` is the text between two places, unless one of them lies
inside a character. -/
def read? (cut : Nat → Nat → Option (List Char)) (known : Directive) (place : Nat) (c : Char) :
    Part → Option (Directive × Part)
  | .start =>
    if c = '[' then some (known, .span (place + 1))
    else if canBegin c then some (known, .word place)
    else none
  | .word start =>
    if c = '=' then
      (cut start place).map fun target =>
        ({ known with target := some target }, .threshold (place + 1))
    else if c = '[' then
      (cut start place).map fun target => ({ known with target := some target }, .span (place + 1))
    else some (known, .word start)
  | .span start =>
    if c = ']' then
      (cut start place).map fun span => ({ known with span := some span }, .afterSpan)
    else if c = '\x7b' then
      (cut start place).map fun span => ({ known with span := nonempty span }, .field (place + 1))
    else some (known, .span start)
  | .field start =>
    if c = '\x7d' then
      ((cut start place).bind Field.parse?).map fun field =>
        ({ known with field := some field }, .afterField)
    else some (known, .field start)
  | .afterField => if c = ']' then some (known, .afterSpan) else none
  | .afterSpan => if c = '=' then some (known, .threshold (place + 1)) else none
  | .threshold start => some (known, .threshold start)

/-- Reads characters from a place on. -/
def readFrom? (cut : Nat → Nat → Option (List Char)) :
    Directive → Part → Nat → List Char → Option (Directive × Part)
  | known, part, _, [] => some (known, part)
  | known, part, place, c :: rest =>
    match read? cut known place c part with
    | none => none
    | some (known, part) => readFrom? cut known part (place + (Utf8.encode [c]).length) rest

/-- The directive of a word alone: a threshold or, if it names none, a target. -/
def ofWord (word : List Char) : Directive :=
  match threshold? word with
  | some threshold => { everything with threshold }
  | none => { everything with target := some word }

/-- The directive once everything is read. -/
def ended? (cut : Nat → Option (List Char)) (known : Directive) : Part → Option Directive
  | .word start => (cut start).map ofWord
  | .threshold start =>
    (cut start).bind fun text =>
      if text.isEmpty then some known
      else (threshold? text).map fun threshold => { known with threshold }
  | .afterSpan => some known
  | _ => none

/-- Reads a directive. -/
def parse? (s : List Char) : Option Directive := do
  let bytes := Utf8.encode s
  let cut := fun start stop => Utf8.decode? ((bytes.take stop).drop start)
  let (known, part) ← readFrom? cut everything .start 0 (trim s)
  ended? (fun start => cut start bytes.length) known part

/-- Whether a directive is about spans. -/
def isAboutSpans (directive : Directive) : Bool :=
  directive.span.isSome || directive.field.isSome

/-- The plain directive for everything outside named spans, unless a directive asks for a named
span or for the value of a field. -/
def plain? (directive : Directive) : Option Directive :=
  if directive.span.isSome || directive.field.any fun field => field.value.isSome then none
  else some directive

/-- The text of a span. -/
def spanText (directive : Directive) : List Char :=
  if directive.isAboutSpans then
    let inside := match directive.field with
      | none => []
      | some field => '\x7b' :: field.text ++ ['\x7d']
    '[' :: directive.span.getD [] ++ inside ++ [']']
  else []

/-- The text of a directive. -/
def text (directive : Directive) : List Char :=
  let place := directive.target.getD [] ++ directive.spanText
  let sign := if directive.target.isSome || directive.isAboutSpans then ['='] else []
  place ++ sign ++ (thresholdName directive.threshold).toList

/-- How many bytes the target of a directive has, if there is one. -/
def targetSize (directive : Directive) : Option Nat :=
  directive.target.map fun target => (Utf8.encode target).length

/-- The order of fields where there may be none. -/
def fieldOrder : Option Field → Option Field → Ordering
  | some a, some b => a.order b
  | a, b => compare a.isSome b.isSome

/-- The order of directives by what they are about, the less specific first. -/
def order (first second : Directive) : Ordering :=
  (compare first.targetSize second.targetSize).then <|
    (compare first.span.isSome second.span.isSome).then <|
      (compare first.field.isSome second.field.isSome).then <|
        (compare first.target second.target).then <|
          (compare first.span second.span).then (fieldOrder first.field second.field)

end Directive

end CommitHistory.LogFilter
