/-
# Asking for changes through a memory

Whoever wants to know what a commit changed looks into the memory first, and asks the
source only if nothing is remembered. The memory is free while the source is asked, so
any number of requests may be under way, and each of them can find what another one has
learnt in the meantime.

## Main definitions

* `Recall`, `Recall.advance` — where a request stands, and its next step.
* `Recollection` — a memory with the requests made of it.
-/

import CommitHistory.Change.Memory

namespace CommitHistory

/-- Where a request for changes stands. -/
inductive Recall where
  | look
  | asking
  | keep (changes : List Change)
  | done (result : Except Fault (List Change))

/-- The next step of a request. A reply is what the source says. -/
def Recall.advance (id : String) (parent : Option String) (memory : ChangeMemory) :
    Recall → Option (Except Fault (List Change)) → Option (ChangeMemory × Recall)
  | .look, none =>
    match memory.retrieve id parent with
    | (some changes, touched) => some (touched, .done (.ok changes))
    | (none, _) => some (memory, .asking)
  | .asking, some (.error fault) => some (memory, .done (.error fault))
  | .asking, some (.ok changes) => some (memory, .keep changes)
  | .keep changes, none => some (memory.learn id parent (.ok changes), .done (.ok changes))
  | _, _ => none

/-- A request for the changes of a commit against a parent. -/
structure ChangeRequest where
  id : String
  parent : Option String
  stage : Recall

/-- A memory and the requests made of it; a request is known by its place in the list. -/
structure Recollection where
  memory : ChangeMemory
  requests : List ChangeRequest

namespace Recollection

/-- A memory of which nothing was asked. -/
def new (capacity : Nat) : Recollection := { memory := .make capacity, requests := [] }

/-- Begins a request. -/
def ask (recollection : Recollection) (id : String) (parent : Option String) : Recollection :=
  { recollection with requests := recollection.requests ++ [{ id, parent, stage := .look }] }

/-- One step of one request. -/
def advance (recollection : Recollection) (number : Nat)
    (reply : Option (Except Fault (List Change))) : Option Recollection := do
  let request ← recollection.requests[number]?
  let (memory, stage) ←
    request.stage.advance request.id request.parent recollection.memory reply
  some { memory, requests := recollection.requests.set number { request with stage } }

end Recollection

end CommitHistory
