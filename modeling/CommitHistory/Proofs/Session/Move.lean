/-
# Moves, activity by activity

A move starts an activity at the end of the list, or one activity of the list takes a step.
So whatever can be read off single activities changes for one task at a time, and what is
put down about the moves of a run grows at its end.

## Main definitions

* `Session.part?` — what can be read off the activity of a task.
* `Session.trace` — what is put down about the moves of a run.
* `Session.watch` — what somebody knows in the end who sees every move of a run.

## Main results

* `Session.Turn.of_move` — every move is of one of the two kinds.
* `Session.activities_of_move`, `Session.activities_of_other` — what it does to single activities.
* `Session.trace_concat`, `Session.watch_concat` — what is put down, or known, grows at its end.
* `Session.exists_of_trace_split` — where a run stands when something is put down.
-/

import CommitHistory.Proofs.Session.History

namespace CommitHistory.Session

variable {session next final : Session} {move : Move} {moves : List Move} {α : Type}

/-! ### The two kinds of moves -/

/-- A move starts an activity, or an activity takes a step. -/
inductive Turn (session : Session) : Move → Session → Prop
  | start (call : Call) : Turn session (.start call) (session.start call)
  | advance {task : Nat} {reply : Option Reply} {before after : Activity} {world : World}
      (held : session.activities[task]? = some before)
      (stepped : before.advance task session.world reply = some (world, after)) :
      Turn session (.advance task reply) ⟨world, session.activities.set task after⟩

theorem Turn.of_move (moved : session.move move = some next) : Turn session move next := by
  cases move with
  | start call =>
    obtain rfl := Option.some.inj moved
    exact .start call
  | advance task reply =>
    obtain ⟨before, held, advanced⟩ := Option.bind_eq_some_iff.mp moved
    obtain ⟨⟨world, after⟩, stepped, made⟩ := Option.bind_eq_some_iff.mp advanced
    obtain rfl := Option.some.inj made
    exact .advance held stepped

/-! ### Single activities -/

/-- The task that a move is about. -/
def mover (session : Session) : Move → Nat
  | .start _ => session.activities.length
  | .advance task _ => task

/-- A move leaves the activities of other tasks where they are. -/
theorem activities_of_other (moved : session.move move = some next) {task : Nat}
    (other : task ≠ session.mover move) : next.activities[task]? = session.activities[task]? := by
  cases Turn.of_move moved with
  | start call =>
    obtain inside | beyond := Nat.lt_or_gt_of_ne other
    · exact List.getElem?_append_left inside
    · have all : session.activities.length + 1 ≤ task := beyond
      rw [List.getElem?_eq_none (Nat.le_of_succ_le all), start,
        List.getElem?_eq_none (by simpa using all)]
  | advance held _ => exact List.getElem?_set_ne (Ne.symm other)

/-- The activity that a move is about begins, or it takes a step. -/
theorem activities_of_move (moved : session.move move = some next) :
    (∃ call, next.world = session.world ∧ session.activities[session.mover move]? = none ∧
        next.activities[session.mover move]? = some (Call.begin call)) ∨
      ∃ reply before after, session.activities[session.mover move]? = some before ∧
        next.activities[session.mover move]? = some after ∧
        before.advance (session.mover move) session.world reply = some (next.world, after) := by
  cases Turn.of_move moved with
  | start call =>
    exact Or.inl ⟨call, rfl, List.getElem?_eq_none Nat.le.refl, List.getElem?_concat_length⟩
  | advance held stepped =>
    obtain ⟨inside, -⟩ := List.getElem?_eq_some_iff.mp held
    exact Or.inr ⟨_, _, _, held, List.getElem?_set_self inside, stepped⟩

/-- No activity is ever taken off the list. -/
theorem absent_of_move (moved : session.move move = some next) {task : Nat}
    (absent : next.activities[task]? = none) : session.activities[task]? = none := by
  by_cases mover : task = session.mover move
  · subst mover
    obtain ⟨call, -, before, -⟩ | ⟨_, _, _, -, now, -⟩ := activities_of_move moved
    · exact before
    · cases absent.symm.trans now
  · exact (activities_of_other moved mover).symm.trans absent

/-- The activity of a task after a move was there before and did not move, or has just begun, or
has taken this step. -/
theorem activity_of_move (moved : session.move move = some next) {task : Nat}
    {activity : Activity} (held : next.activities[task]? = some activity) :
    session.activities[task]? = some activity ∨
      (∃ call, activity = Call.begin call) ∨
      ∃ reply before, session.activities[task]? = some before ∧
        before.advance task session.world reply = some (next.world, activity) := by
  by_cases mover : task = session.mover move
  · subst mover
    obtain ⟨call, -, -, begun⟩ | ⟨reply, before, after, was, goes, stepped⟩ :=
      activities_of_move moved
    · exact Or.inr (Or.inl ⟨call, Option.some.inj (held.symm.trans begun)⟩)
    · obtain rfl := Option.some.inj (held.symm.trans goes)
      exact Or.inr (Or.inr ⟨reply, before, was, stepped⟩)
  · exact Or.inl ((activities_of_other moved mover).symm.trans held)

/-! ### Parts of activities -/

/-- What can be read off the activity of a task. -/
def part? (view : Activity → Option α) (session : Session) (task : Nat) : Option α :=
  session.activities[task]?.bind view

variable {view : Activity → Option α}

theorem part?_of_held {task : Nat} {activity : Activity}
    (held : session.activities[task]? = some activity) :
    session.part? view task = view activity := by
  rw [part?, held, Option.bind_some]

theorem part?_of_absent {task : Nat} (absent : session.activities[task]? = none) :
    session.part? view task = none := by
  rw [part?, absent, Option.bind_none]

/-- A move changes what can be read off one activity only. -/
theorem part?_of_other (view : Activity → Option α) (moved : session.move move = some next)
    {task : Nat} (other : task ≠ session.mover move) :
    next.part? view task = session.part? view task := by
  rw [part?, activities_of_other moved other, part?]

/-! ### Traces -/

/-- What is put down about the moves of a run, up to the first move that is not possible. -/
def trace (observe : Session → Move → List α) (session : Session) : List Move → List α
  | [] => []
  | move :: rest =>
    observe session move ++
      match session.move move with
      | some next => trace observe next rest
      | none => []

variable {observe : Session → Move → List α}

theorem trace_append (played : session.play moves = some next) (later : List Move) :
    session.trace observe (moves ++ later) =
      session.trace observe moves ++ next.trace observe later := by
  induction moves generalizing session with
  | nil =>
    obtain rfl := Option.some.inj played
    rfl
  | cons move rest ih =>
    obtain ⟨middle, moved, played⟩ := Option.bind_eq_some_iff.mp played
    simp only [List.cons_append, trace, moved, ih played, List.append_assoc]

theorem trace_concat (played : session.play moves = some next) (move : Move) :
    session.trace observe (moves ++ [move]) =
      session.trace observe moves ++ observe next move := by
  rw [trace_append played, trace]
  cases next.move move <;> simp [trace]

/-- Where a run stands when something is put down, if every move puts down one thing at most. -/
theorem exists_of_trace_split (single : ∀ session move, (observe session move).length ≤ 1)
    (played : session.play moves = some final) {earlier later : List α} {event : α}
    (split : session.trace observe moves = earlier ++ event :: later) :
    ∃ before move after middle next, moves = before ++ move :: after ∧
      session.play before = some middle ∧ middle.move move = some next ∧
      next.play after = some final ∧ observe middle move = [event] ∧
      next.trace observe after = later := by
  induction moves generalizing session earlier with
  | nil => simp [trace] at split
  | cons move rest ih =>
    obtain ⟨next, moved, played⟩ := Option.bind_eq_some_iff.mp played
    have onward {earlier : List α} (split : next.trace observe rest = earlier ++ event :: later) :
        ∃ before move' after middle next, move :: rest = before ++ move' :: after ∧
          session.play before = some middle ∧ middle.move move' = some next ∧
          next.play after = some final ∧ observe middle move' = [event] ∧
          next.trace observe after = later := by
      obtain ⟨before, move', after, middle, next', rfl, reached, found⟩ := ih played split
      refine ⟨move :: before, move', after, middle, next', rfl, ?_, found⟩
      rw [← reached, ← List.singleton_append, play_append_of_play]
      rw [play_singleton, moved]
    simp only [trace, moved] at split
    match seen : observe session move, single session move with
    | [], _ =>
      rw [seen, List.nil_append] at split
      exact onward split
    | [first], _ =>
      rw [seen, List.singleton_append] at split
      cases earlier with
      | nil =>
        obtain ⟨rfl, rest'⟩ := List.cons.inj split
        exact ⟨[], move, rest, session, next, rfl, rfl, moved, played, seen, rest'⟩
      | cons _ earlier => exact onward (List.cons.inj split).2
    | _ :: _ :: _, long => simp at long

/-! ### Watching runs -/

/-- What somebody knows after a run who sees every move of it, up to the first one that is not
possible. -/
def watch (see : Session → Move → α → α) (known : α) (session : Session) : List Move → α
  | [] => known
  | move :: rest =>
    match session.move move with
    | some next => watch see (see session move known) next rest
    | none => see session move known

theorem watch_concat (see : Session → Move → α → α) (known : α)
    (played : session.play moves = some next) (move : Move) :
    session.watch see known (moves ++ [move]) = see next move (session.watch see known moves) := by
  induction moves generalizing session known with
  | nil =>
    obtain rfl := Option.some.inj played
    rw [List.nil_append, watch, watch]
    cases session.move move <;> rfl
  | cons first rest ih =>
    obtain ⟨middle, moved, played⟩ := Option.bind_eq_some_iff.mp played
    simp only [List.cons_append, watch, moved, ih _ played]

end CommitHistory.Session
