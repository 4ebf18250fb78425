/-
# Talking to git

Whatever is learnt from git is learnt by running it with arguments and looking at how
the run ended. A dialogue is a computation that may do so: it is over, or it asks for
one run and goes on with what came of it. Nothing in a dialogue says where the answers
come from, so the same dialogue can be held with a real git or with a recorded one.

## Main definitions

* `Git.Outcome` — how a run ended.
* `Git.Dialogue`, `Git.Dialogue.run` — dialogues, and holding one.
* `Git.demand`, `Git.attempt` — runs that must succeed and runs that may fail.
-/

import CommitHistory.Fault
import CommitHistory.Text.Blank
import CommitHistory.Text.Utf8

namespace CommitHistory.Git

open Text

/-- How a run ended: it did not start for a reason that the system gives, or it ended with what
it wrote. A run that a signal killed has no exit code. -/
inductive Outcome where
  | notStarted (reason : String)
  | ended (code : Option Int) (output errors : List UInt8)
deriving DecidableEq, Repr

/-- A computation that may ask for runs of git. -/
inductive Dialogue (α : Type) where
  | done (value : α)
  | ask (arguments : List String) (next : Outcome → Dialogue α)

namespace Dialogue

variable {α β : Type}

/-- Goes on with the result of a dialogue. -/
def bind : Dialogue α → (α → Dialogue β) → Dialogue β
  | .done value, next => next value
  | .ask arguments continued, next => .ask arguments fun outcome => (continued outcome).bind next

instance : Monad Dialogue where
  pure := .done
  bind := bind

/-- Holds a dialogue: every run is answered by the given function. The second result lists the
arguments of the runs in order. -/
def run (answer : List String → Outcome) : Dialogue α → α × List (List String)
  | .done value => (value, [])
  | .ask arguments next =>
    let rest := run answer (next (answer arguments))
    (rest.1, arguments :: rest.2)

end Dialogue

/-- A dialogue that can fail. -/
abbrev Exchange (α : Type) : Type := ExceptT Fault Dialogue α

/-- Asks for a run. -/
def ask (arguments : List String) : Exchange Outcome :=
  ExceptT.mk (.ask arguments fun outcome => .done (.ok outcome))

/-- The subcommand that arguments begin with. -/
def subcommand (arguments : List String) : String := arguments.headD ""

/-- The fault of a run that did not start. -/
def startFault (program : String) (arguments : List String) (reason : String) : Fault :=
  .git (subcommand arguments) ("无法启动 " ++ program ++ ": " ++ reason) none

/-- Whether a run that ended was a success. -/
def isSuccess (code : Option Int) : Bool := code == some 0

/-- What a run of the program writes. A run that fails or is killed is a fault with what it
wrote to its error output. -/
def demand (program : String) (arguments : List String) : Exchange (List Char) := do
  match ← ask arguments with
  | .notStarted reason => throw (startFault program arguments reason)
  | .ended code output errors =>
    if isSuccess code then pure (Utf8.decodeLossy output)
    else throw (.git (subcommand arguments) (String.ofList (trim (Utf8.decodeLossy errors))) code)

/-- What a run of the program writes, trimmed, or nothing if it fails or is killed. Only a run
that does not start is a fault. -/
def attempt (program : String) (arguments : List String) : Exchange (Option (List Char)) := do
  match ← ask arguments with
  | .notStarted reason => throw (startFault program arguments reason)
  | .ended code output _ =>
    pure (if isSuccess code then some (trim (Utf8.decodeLossy output)) else none)

end CommitHistory.Git
