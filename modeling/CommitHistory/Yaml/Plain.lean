/-
# Plain YAML scalars

A plain scalar has no marks around it. It ends before a colon with a blank behind it,
before a comment, and, inside brackets, before the marks of brackets. It goes on over
line ends as long as the lines are indented enough.
-/

import CommitHistory.Yaml.Place

namespace CommitHistory.Yaml

/-- The marks that end a plain scalar inside brackets. -/
def isFlowMark (c : Char) : Bool := c == ',' || c == '[' || c == ']' || c == '{' || c == '}'

/-- Whether a colon stands before a mark of brackets, which is a mistake in a plain scalar. -/
def isStrayColon (c : Char) (rest : List Char) : Bool :=
  c == ':' && rest.head?.any fun next => isFlowMark next || next == '?'

/-- Whether a plain scalar can begin here. -/
def startsPlain (inFlow : Bool) (s : List Char) : Bool :=
  match s with
  | [] => false
  | c :: rest =>
    if c = '-' then !endsWord rest
    else if c = '?' ∨ c = ':' then !inFlow && !endsWord rest
    else !(isBlank c || isBreak c || isFlowMark c || "#&*!|>'\"%@`".toList.contains c)

/-- Reads the characters of a plain scalar up to a blank or an end. -/
def plainWord? (inFlow : Bool) : List Char → Option (List Char)
  | [] => some []
  | c :: rest =>
    if inFlow && isStrayColon c rest then none
    else if isBlank c || isBreak c || (c == ':' && endsWord rest) || (inFlow && isFlowMark c) then
      some []
    else (plainWord? inFlow rest).map (c :: ·)

/-- Reads a plain scalar after a gap. Outside brackets its lines begin in a column of at least
`least`. The second result says whether line ends come behind the scalar. -/
def plain? (inFlow : Bool) (least : Nat) :
    Nat → Gap → Place → Option (List Char × Bool × Place)
  | 0, _, _ => none
  | bound + 1, gap, place =>
    let ended := some ([], !gap.breaks.isEmpty, place)
    if place.isMarker ∨ place.rest.head? = some '#' then ended
    else
      match plainWord? inFlow place.rest with
      | none => none
      | some [] => ended
      | some word => do
        let after := place.skip word.length
        let (next, start) ← Gap.read? least (after.rest.length + 1) true after
        let text := gap.folded ++ word
        if next.blanks.isEmpty && next.breaks.isEmpty then some (text, false, after)
        else if !inFlow && start.column < least then some (text, !next.breaks.isEmpty, start)
        else
          (plain? inFlow least bound next start).map fun found => (text ++ found.1, found.2)

end CommitHistory.Yaml
