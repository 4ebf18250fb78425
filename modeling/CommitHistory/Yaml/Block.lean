/-
# Block scalars of YAML

A block scalar keeps its lines, or folds them. How far its lines are indented is written
behind its mark or found out from the first of them, and a further sign says what
becomes of the line ends behind the last line.
-/

import CommitHistory.Yaml.Place

namespace CommitHistory.Yaml

/-- How the line ends after the last line of a block scalar are treated. -/
inductive Chomping where
  | strip
  | clip
  | keep
deriving DecidableEq, Repr

/-- What stands behind the mark of a block scalar: how far its lines are indented, if that is
written, and how it ends. -/
structure BlockHeader where
  indent : Option Nat
  chomping : Chomping

/-- The sign for the line ends. -/
def chomping? : Char → Option Chomping
  | '+' => some .keep
  | '-' => some .strip
  | _ => none

/-- The digit for the indentation. -/
def indentDigit? (c : Char) : Option Nat :=
  if '1' ≤ c ∧ c ≤ '9' then some (c.toNat - '0'.toNat) else none

/-- Reads the two optional signs behind the mark of a block scalar, which come in any order. -/
def blockHeader (s : List Char) : BlockHeader × Nat :=
  let first := s.head?
  let second := s.tail.head?
  match first.bind chomping?, first.bind indentDigit? with
  | some chomping, _ =>
    match second.bind indentDigit? with
    | some indent => ({ indent := some indent, chomping }, 2)
    | none => ({ indent := none, chomping }, 1)
  | none, some indent =>
    match second.bind chomping? with
    | some chomping => ({ indent := some indent, chomping }, 2)
    | none => ({ indent := some indent, chomping := .clip }, 1)
  | none, none => ({ indent := none, chomping := .clip }, 0)

/-- Goes over empty lines to the column in which lines begin, or, if it is not known, to the first
character. The results are the line ends on the way, the largest column, and the place. No tab may
stand left of the column. -/
def emptyLines? (indent : Option Nat) : Nat → Place → Option (List Char × Nat × Place)
  | 0, _ => none
  | bound + 1, place =>
    let blanks := (place.rest.takeWhile (· = ' ')).length
    let next := place.skip (match indent with
      | some n => min blanks (n - place.column)
      | none => blanks)
    let isLeft := indent.all fun n => next.column < n
    if isLeft && next.rest.head? == some '\t' then none
    else
      match next.lineEnd? with
      | none => some ([], next.column, next)
      | some (c, after) =>
        (emptyLines? indent bound after).map fun (breaks, column, place) =>
          (c :: breaks, max next.column column, place)

/-- What comes between two lines: the end of the first one, the line ends of empty lines, and
whether one of the two lines begins with a further blank. -/
def betweenLines (fold besideBlank : Bool) (lead breaks : List Char) : List Char :=
  if fold && lead == ['\n'] && !besideBlank then if breaks.isEmpty then [' '] else breaks
  else lead ++ breaks

/-- Reads the lines of a block scalar. `lead` is the end of the line before, `wasDeeper` says
whether that line began with a further blank, and `breaks` are the line ends of empty lines in
between. The results are the text and what comes behind its last line. -/
def blockLines? (fold : Bool) (indent : Nat) :
    Nat → Bool → List Char → List Char → Place →
      Option (List Char × List Char × List Char × Place)
  | 0, _, _, _, _ => none
  | bound + 1, wasDeeper, lead, breaks, place =>
    if place.column ≠ indent ∨ place.rest.isEmpty then some ([], lead, breaks, place)
    else do
      let isDeeper := place.rest.head?.any isBlank
      let line := place.rest.takeWhile fun c => !isBreak c
      let after := place.skip line.length
      let (ending, start) := match after.lineEnd? with
        | some (c, next) => ([c], next)
        | none => ([], after)
      let (next, _, start) ← emptyLines? (some indent) (start.rest.length + 1) start
      let (text, lastLead, lastBreaks, place) ←
        blockLines? fold indent bound isDeeper ending next start
      some (betweenLines fold (wasDeeper || isDeeper) lead breaks ++ line ++ text,
        lastLead, lastBreaks, place)

/-- Reads a block scalar after its mark. What it belongs to has a column of at least `depth`. -/
def block? (fold : Bool) (depth : Nat) (place : Place) : Option (List Char × Place) := do
  let (header, length) := blockHeader place.rest
  let start ← (place.skip length).endLine?
  -- What is written counts from the column of the node around the scalar.
  let known := header.indent.map fun n => (depth - 1) + n
  let (breaks, column, start) ← emptyLines? known (start.rest.length + 1) start
  let indent := known.getD (max column (max depth 1))
  let (text, lead, breaks, place) ←
    blockLines? fold indent (start.rest.length + 1) false [] breaks start
  let ending := match header.chomping with
    | .strip => []
    | .clip => lead
    | .keep => lead ++ breaks
  some (text ++ ending, place)

end CommitHistory.Yaml
