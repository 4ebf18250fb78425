/-
# Leaving a repository out of a run

Every call but the choice of a repository or of a scope is about one repository. From a run the
calls that are about a given one can be left out, with all their steps. The calls that stay move
up, so their tasks have new numbers: a task has as number how many calls that stay began before it.

## Main definitions

* `Call.owner?` — the repository that a call is about.
* `rank` — how many items before a place are kept.
* `without` — a run without the calls about a repository.

## Main results

* `calls_without` — what is left are the calls that are not about it.
* `getElem?_filter_rank` — an item that is kept is found again at its new place.
-/

import CommitHistory.Proofs.Session.Move

namespace CommitHistory.Session

/-! ### Places in what is kept -/

section Rank

variable {α : Type} (keeps : α → Bool)

/-- How many of the items before a place are kept. -/
def rank (items : List α) (place : Nat) : Nat := (items.take place).countP keeps

variable {keeps} {items : List α} {item : α} {place other : Nat}

theorem rank_append (more : List α) (inside : place ≤ items.length) :
    rank keeps (items ++ more) place = rank keeps items place := by
  rw [rank, List.take_append_of_le_length inside, rank]

@[simp] theorem rank_length : rank keeps items items.length = items.countP keeps := by
  rw [rank, List.take_length]

/-- A kept item comes before all that are kept later. -/
theorem rank_lt_rank (held : items[place]? = some item) (kept : keeps item = true)
    (before : place < other) : rank keeps items place < rank keeps items other := by
  have split : items.take (place + 1) = items.take place ++ [item] := by
    rw [List.take_add_one, held, Option.toList_some]
  have prior : rank keeps items (place + 1) ≤ rank keeps items other :=
    ((List.take_prefix_take_left before).sublist).countP_le
  rw [rank, split, List.countP_append, List.countP_singleton, if_pos kept] at prior
  exact prior

/-- No two kept items have the same place. -/
theorem rank_injective {first second : α} (one : items[place]? = some first)
    (two : items[other]? = some second) (keepsOne : keeps first = true)
    (keepsTwo : keeps second = true) (same : rank keeps items place = rank keeps items other) :
    place = other := by
  rcases Nat.lt_trichotomy place other with before | equal | after
  · exact absurd same (Nat.ne_of_lt (rank_lt_rank one keepsOne before))
  · exact equal
  · exact absurd same.symm (Nat.ne_of_lt (rank_lt_rank two keepsTwo after))

theorem rank_lt_countP (held : items[place]? = some item) (kept : keeps item = true) :
    rank keeps items place < items.countP keeps := by
  obtain ⟨inside, -⟩ := List.getElem?_eq_some_iff.mp held
  exact rank_length ▸ rank_lt_rank held kept inside

/-- A kept item is found at its place among those that are kept. -/
theorem getElem?_filter_rank (held : items[place]? = some item) (kept : keeps item = true) :
    (items.filter keeps)[rank keeps items place]? = some item := by
  obtain ⟨inside, rfl⟩ := List.getElem?_eq_some_iff.mp held
  have split : items.filter keeps = (items.take place).filter keeps ++
      items[place] :: (items.drop (place + 1)).filter keeps := by
    conv_lhs => rw [← List.take_append_drop place items, List.drop_eq_getElem_cons inside]
    rw [List.filter_append, List.filter_cons_of_pos kept]
  have length : rank keeps items place = ((items.take place).filter keeps).length :=
    List.countP_eq_length_filter
  rw [split, length, List.getElem?_append_right Nat.le.refl, Nat.sub_self, List.getElem?_cons_zero]

end Rank

/-! ### Calls -/

/-- The repository that an edit is about; a choice is about none. -/
def Edit.owner? : Edit → Option RepositoryId
  | .add repository => some repository.id
  | .setWantsMore id _ | .clear id => some id
  | .choose _ | .activate _ | .setScope _ => none

/-- The repository that a call is about. -/
def Call.owner? : Call → Option RepositoryId
  | .fetch repository | .loadMore repository | .ancestor repository => some repository.id
  | .edit change => change.owner?
  | .remove id => some id
  | _ => none

/-- The calls that work on the store and not on the tree that is shown. -/
def Call.isOfStore : Call → Bool
  | .fetch _ | .loadMore _ | .ancestor _ | .edit _ | .remove _ => true
  | _ => false

/-- The call that a move begins. -/
def Move.call? : Move → Option Call
  | .start call => some call
  | .advance _ _ => none

/-- The calls of a run; a task has the number of its call. -/
def calls (moves : List Move) : List Call := moves.filterMap Move.call?

variable {id : RepositoryId} {known : List Call} {call : Call} {task : Nat} {moves : List Move}

theorem calls_cons (move : Move) (moves : List Move) :
    calls (move :: moves) = move.call?.toList ++ calls moves := by
  rw [calls, List.filterMap_cons]
  cases move.call? <;> rfl

theorem calls_append (first second : List Move) :
    calls (first ++ second) = calls first ++ calls second :=
  List.filterMap_append

/-! ### Leaving out -/

/-- Whether a call is not about a repository. -/
def Call.isKept (id : RepositoryId) (call : Call) : Bool := call.owner? ≠ some id

/-- The number of a task when the calls about a repository are left out. -/
def number (id : RepositoryId) (known : List Call) (task : Nat) : Nat :=
  rank (Call.isKept id) known task

/-- Whether a task is not about a repository. -/
def isKept (id : RepositoryId) (known : List Call) (task : Nat) : Bool :=
  known[task]?.all (Call.isKept id)

/-- What is left of a move after some calls. -/
def Move.without (id : RepositoryId) (known : List Call) : Move → List Move
  | .start call => if call.isKept id then [.start call] else []
  | .advance task reply =>
    if isKept id known task then [.advance (number id known task) reply] else []

/-- What is left of a run, after some calls, without the calls about a repository. -/
def without (id : RepositoryId) (known : List Call) : List Move → List Move
  | [] => []
  | move :: rest => move.without id known ++ without id (known ++ move.call?.toList) rest

theorem Call.isKept_iff : call.isKept id = true ↔ call.owner? ≠ some id := by
  rw [Call.isKept, decide_eq_true_eq]

theorem isKept_of_held (held : known[task]? = some call) :
    isKept id known task = call.isKept id := by
  rw [isKept, held, Option.all_some]

theorem number_append (more : List Call) (inside : task ≤ known.length) :
    number id (known ++ more) task = number id known task :=
  rank_append more inside

theorem number_injective {other : Nat} {second : Call} (one : known[task]? = some call)
    (two : known[other]? = some second) (keepsOne : call.isKept id = true)
    (keepsTwo : second.isKept id = true) (same : number id known task = number id known other) :
    task = other :=
  rank_injective one two keepsOne keepsTwo same

theorem calls_move_without (id : RepositoryId) (known : List Call) (move : Move) :
    calls (move.without id known) = move.call?.toList.filter (Call.isKept id) := by
  cases move with
  | start call =>
    rw [Move.without, Move.call?, Option.toList_some, List.filter_cons, List.filter_nil]
    cases call.isKept id <;> rfl
  | advance task reply =>
    rw [Move.without]
    split <;> rfl

/-- The calls that are left are those that are not about the repository. -/
theorem calls_without (id : RepositoryId) (known : List Call) (moves : List Move) :
    calls (without id known moves) = (calls moves).filter (Call.isKept id) := by
  induction moves generalizing known with
  | nil => rfl
  | cons move rest ih =>
    rw [without, calls_append, calls_move_without, ih, calls_cons, List.filter_append]

/-- A call that is left has the number of its task. -/
theorem getElem?_calls_without (held : (calls moves)[task]? = some call)
    (kept : call.isKept id = true) :
    (calls (without id [] moves))[number id (calls moves) task]? = some call := by
  rw [calls_without]
  exact getElem?_filter_rank held kept

end CommitHistory.Session
