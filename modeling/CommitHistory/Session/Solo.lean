/-
# Calls without company

A call that nobody interferes with goes on step by step to its end. Where it asks a
source, the answer comes from a computation of any kind: from a table, from a dialogue
with git, or from something that keeps a state.
-/

import CommitHistory.Session.Activity

namespace CommitHistory.Session

variable {m : Type → Type} [Monad m]

/-- Goes on with an activity to its end, or until the bound is reached. The second result is
missing if the end is not reached. -/
def finish (answer : Question → m Reply) (task : Nat) : Nat → Session →
    m (Session × Option Result)
  | 0, session => pure (session, none)
  | bound + 1, session =>
    match session.result? task, session.question? task with
    | some result, _ => pure (session, some result)
    | none, some question => do
      let reply ← answer question
      match session.advance task (some reply) with
      | some next => finish answer task bound next
      | none => pure (session, none)
    | none, none =>
      match session.advance task none with
      | some next => finish answer task bound next
      | none => pure (session, none)

/-- A bound on the steps of one call. A request for a refresh takes the most, about twenty. -/
def patience : Nat := 64

/-- Carries out a call. -/
def perform (answer : Question → m Reply) (call : Call) (session : Session) :
    m (Session × Option Result) :=
  finish answer session.activities.length patience (session.start call)

/-- Whether the last line that is shown offers more history. -/
def offersMore (session : Session) : Bool :=
  match session.world.display.lines.getLast? with
  | some (.more _) => true
  | _ => false

/-- Asks for more lines up to a number of times, as long as more history is offered. The first
fault is the end. -/
def extendLines (answer : Question → m Reply) : Nat → Session → m (Except Fault Session)
  | 0, session => pure (.ok session)
  | count + 1, session =>
    if session.offersMore then do
      let (next, result) ← session.perform answer .moreLines
      match result with
      | some (.flag (.error fault)) => pure (.error fault)
      | _ => extendLines answer count next
    else pure (.ok session)

/-- Shows the first so many pages of the selected repository, at least one. -/
def showPages (answer : Question → m Reply) (pages : Nat) (session : Session) :
    m (Except Fault Session) := do
  let (shown, _) ← session.perform answer (.refresh false)
  match shown.world.display.fault with
  | some fault => pure (.error fault)
  | none => extendLines answer (pages - 1) shown

end CommitHistory.Session
