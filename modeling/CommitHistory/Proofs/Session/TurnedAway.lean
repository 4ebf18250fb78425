/-
# Requests for more lines that are turned away

A request for more lines says no in three places: nothing is selected, another request holds the
mark of the tree, or the rows of its repository are not there or are being added to already. The
mark is one for all repositories. So a request is turned away for reasons of its own repository
in all runs in which no request comes to the mark while one for another repository holds it.

## Main definitions

* `Session.holder?` — which request holds the mark of the tree, and for which repository.
* `Session.TurnsAway` — a move by which a request is turned away.
* `Session.Excused` — the reasons that have to do with the repository of the request.
* `Session.PerRepository` — requests are turned away for such reasons only.
* `Session.Unmixed` — no request meets one for another repository at the mark.

## Main results

* `Session.HeldBy.of_play` — the mark is there exactly as long as a request holds it.
* `Session.exists_turnsAway` — a request that comes to nothing was turned away by one move.
* `Session.perRepository_iff_unmixed` — when requests are turned away for such reasons only.
-/

import CommitHistory.Proofs.Session.Choice
import CommitHistory.Proofs.Session.Guard
import Mathlib.Tactic.IntervalCases

namespace CommitHistory.Session

variable {session next final first : Session} {move : Move} {moves : List Move} {pageSize : Nat}
  {scope : Scope} {id : RepositoryId} {task : Nat}

/-! ### Requests of a session -/

/-- Where the request for more lines of a task stands. -/
def linesOf? (session : Session) (task : Nat) : Option MoreLines :=
  session.part? Activity.moreLines? task

/-- A move, seen from requests for more lines: the request of its task takes a step or begins, or
its task has no such request. -/
inductive LinesShift (session : Session) (move : Move) (next : Session) : Prop
  | step {stage stage' : MoreLines} {reply : Option Reply}
      (under : session.linesOf? (session.mover move) = some stage)
      (advanced : stage.advance (session.mover move) session.world reply =
        some (next.world, stage'))
      (goes : next.linesOf? (session.mover move) = some stage')
  | begin (idle : session.linesOf? (session.mover move) = none) (same : next.world = session.world)
      (begun : next.linesOf? (session.mover move) = some .select)
  | rest (idle : session.linesOf? (session.mover move) = none)
      (idle' : next.linesOf? (session.mover move) = none)
      (mark : next.world.display.isLoadingMore = session.world.display.isLoadingMore)

theorem LinesShift.of_move (moved : session.move move = some next) :
    LinesShift session move next := by
  obtain ⟨call, same, absent, begun⟩ | ⟨reply, before, after, held, held', stepped⟩ :=
    activities_of_move moved
  · have idle : session.linesOf? (session.mover move) = none := part?_of_absent absent
    have begins : next.linesOf? (session.mover move) = call.begin.moreLines? := part?_of_held begun
    cases call with
    | moreLines => exact .begin idle same begins
    | refresh clear =>
      refine .rest idle (begins.trans ?_) (by rw [same])
      cases clear <;> rfl
    | _ => exact .rest idle begins (by rw [same])
  · have was : session.linesOf? (session.mover move) = before.moreLines? := part?_of_held held
    have goes : next.linesOf? (session.mover move) = after.moreLines? := part?_of_held held'
    cases Activity.Scene.of_advance stepped with
    | refresh _ steps _ apart apart' =>
      exact .rest (was.trans apart) (goes.trans apart') steps.isLoadingMore
    | begin _ _ _ same apart apart' =>
      exact .rest (was.trans apart) (goes.trans apart') (by rw [same])
    | rest _ _ display apart apart' =>
      exact .rest (was.trans apart) (goes.trans apart') (by rw [display])
    | moreLines under _ goes' =>
      subst under goes'
      obtain ⟨_, advanced, same⟩ := exists_of_map_eq_some stepped
      cases same
      exact .step was advanced goes

theorem linesOf?_of_other (moved : session.move move = some next)
    (other : task ≠ session.mover move) : next.linesOf? task = session.linesOf? task :=
  part?_of_other Activity.moreLines? moved other

/-! ### Whoever holds the mark -/

/-- Who holds the mark of the tree after a step of a request for more lines, and for which
repository. -/
def MoreLines.holderAfter (task : Nat) (world : World) (holder? : Option (Nat × RepositoryId)) :
    MoreLines → Option (Nat × RepositoryId)
  | .claim repository =>
    if world.display.isLoadingMore then holder? else some (task, repository.id)
  | .release _ => none
  | _ => holder?

/-- Who holds the mark of the tree after a move. -/
def holderAfter (session : Session) (move : Move) (holder? : Option (Nat × RepositoryId)) :
    Option (Nat × RepositoryId) :=
  match session.linesOf? (session.mover move) with
  | some stage => stage.holderAfter (session.mover move) session.world holder?
  | none => holder?

/-- Who holds the mark of the tree after a run that begins without it. -/
def holder? (first : Session) (moves : List Move) : Option (Nat × RepositoryId) :=
  first.watch holderAfter none moves

/-- A request holds the mark, for this repository as far as can still be seen. -/
def MoreLines.HoldsFor (id : RepositoryId) : MoreLines → Prop
  | .enter repository | .waiting repository | .loading repository _ => repository.id = id
  | .showing _ | .leave _ | .release _ => True
  | .select | .claim _ | .done _ => False

namespace MoreLines

variable {world world' : World} {reply : Option Reply} {stage stage' : MoreLines}

theorem HoldsFor.isHolding (holds : stage.HoldsFor id) : stage.isHolding = true := by
  cases stage <;> first | rfl | cases holds

theorem HoldsFor.ofLoadMore {repository : Repository} (same : repository.id = id)
    (stage : LoadMore) : (MoreLines.ofLoadMore repository stage).HoldsFor id := by
  unfold MoreLines.ofLoadMore
  split
  · trivial
  · trivial
  · exact same

theorem HoldsFor.of_advance (holds : stage.HoldsFor id)
    (advanced : stage.advance task world reply = some (world', stage'))
    (kept : ∀ result, stage ≠ .release result) : stage'.HoldsFor id := by
  cases Steps.of_advance advanced with
  | select _ | claim _ => cases holds
  | refuse early => obtain rfl | ⟨_, rfl⟩ := early <;> cases holds
  | enter _ | queue _ | pass _ => exact holds
  | load _ => exact .ofLoadMore holds _
  | @showLines _ shown => cases shown <;> trivial
  | leave _ => trivial
  | release result => exact absurd rfl (kept result)

/-- A request takes the mark if it is free, and takes it away in the end. -/
theorem isLoadingMore_of_advance
    (advanced : stage.advance task world reply = some (world', stage'))
    (away : ∀ repository, stage ≠ .claim repository) (kept : ∀ result, stage ≠ .release result) :
    world'.display.isLoadingMore = world.display.isLoadingMore := by
  cases Steps.of_advance advanced with
  | claim repository => exact absurd rfl (away repository)
  | release result => exact absurd rfl (kept result)
  | load stepped => rw [LoadMore.display_of_advance stepped]
  | showLines stepped => exact (Showing.Steps.of_advance stepped).isLoadingMore
  | _ => rfl

end MoreLines

/-- Whoever comes to the mark is turned away if it is there, and takes it if it is free. -/
theorem MoreLines.eq_of_advance_claim {world world' : World} {reply : Option Reply}
    {repository : Repository} {stage' : MoreLines}
    (advanced : (claim repository).advance task world reply = some (world', stage')) :
    world.display.isLoadingMore = true ∧ world' = world ∧ stage' = .done (.ok false) ∨
      world.display.isLoadingMore = false ∧ world'.display.isLoadingMore = true ∧
        stage' = .enter repository := by
  cases reply with
  | some _ => cases advanced
  | none =>
    rw [advance] at advanced
    split at advanced <;> cases advanced
    next busy => exact Or.inl ⟨busy, rfl, rfl⟩
    next free => exact Or.inr ⟨eq_false_of_ne_true free, rfl, rfl⟩

/-- The mark of the tree is there exactly if somebody holds it, and whoever does is under way. -/
structure HeldBy (holder? : Option (Nat × RepositoryId)) (session : Session) : Prop where
  mark : session.world.display.isLoadingMore = holder?.isSome
  holds : ∀ task id, holder? = some (task, id) →
    ∃ stage, session.linesOf? task = some stage ∧ stage.HoldsFor id

namespace HeldBy

variable {holder? : Option (Nat × RepositoryId)}

/-- A move of somebody else than the holder that leaves the mark alone. -/
theorem of_quiet (held : session.HeldBy holder?) (moved : session.move move = some next)
    (mark : next.world.display.isLoadingMore = session.world.display.isLoadingMore)
    (mine : ∀ id, holder? = some (session.mover move, id) →
      ∃ stage, next.linesOf? (session.mover move) = some stage ∧ stage.HoldsFor id) :
    next.HeldBy holder? := by
  refine ⟨mark.trans held.mark, fun task id holder => ?_⟩
  by_cases mover : task = session.mover move
  · exact mover ▸ mine id (mover ▸ holder)
  · rw [linesOf?_of_other moved mover]
    exact held.holds task id holder

/-- A request that is over, or has not come to the mark yet, is not the holder. -/
theorem not_holder {stage : MoreLines} (held : session.HeldBy holder?)
    (under : session.linesOf? task = some stage) (free : stage.isHolding = false) :
    holder? ≠ some (task, id) := by
  intro holder
  obtain ⟨_, under', holds⟩ := held.holds task id holder
  cases under.symm.trans under'
  cases free.symm.trans holds.isHolding

theorem holding (held : session.HeldBy holder?) (holder : holder? = some (task, id)) :
    session.Holding task := by
  obtain ⟨stage, under, holds⟩ := held.holds task id holder
  obtain ⟨activity, found, under⟩ := Option.bind_eq_some_iff.mp under
  refine ⟨activity, found, ?_⟩
  rw [Activity.isHolding, under]
  exact holds.isHolding

theorem of_move (held : session.HeldBy holder?) (moved : session.move move = some next) :
    next.HeldBy (session.holderAfter move holder?) := by
  have quiet (idle : session.linesOf? (session.mover move) = none)
      (mark : next.world.display.isLoadingMore = session.world.display.isLoadingMore) :
      next.HeldBy (session.holderAfter move holder?) := by
    rw [holderAfter, idle]
    refine held.of_quiet moved mark fun id holder => ?_
    obtain ⟨_, under, -⟩ := held.holds _ id holder
    cases idle.symm.trans under
  cases LinesShift.of_move moved with
  | begin idle same _ => exact quiet idle (by rw [same])
  | rest idle _ mark => exact quiet idle mark
  | @step stage stage' reply under advanced goes =>
    have goesOn : session.holderAfter move holder? =
        stage.holderAfter (session.mover move) session.world holder? := by
      rw [holderAfter, under]
    rw [goesOn]
    cases stage with
    | claim repository =>
      obtain ⟨busy, same, rfl⟩ | ⟨free, taken, rfl⟩ := MoreLines.eq_of_advance_claim advanced
      · -- Whoever is turned away leaves the mark to the holder.
        rw [MoreLines.holderAfter, if_pos busy]
        exact held.of_quiet moved (by rw [same]) fun id holder =>
          absurd holder (held.not_holder under rfl)
      · rw [MoreLines.holderAfter, if_neg (by rw [free]; exact nofun)]
        refine ⟨by rw [taken]; rfl, fun task id holder => ?_⟩
        cases holder
        exact ⟨_, goes, rfl⟩
    | release result =>
      refine ⟨?_, nofun⟩
      cases reply with
      | some _ => cases advanced
      | none =>
        obtain ⟨freed, -⟩ := Prod.mk.inj (Option.some.inj advanced)
        rw [← freed]
        rfl
    | _ =>
      refine held.of_quiet moved (MoreLines.isLoadingMore_of_advance advanced nofun nofun) ?_
      intro id holder
      obtain ⟨_, under', holds⟩ := held.holds _ id holder
      cases under.symm.trans under'
      exact ⟨_, goes, holds.of_advance advanced nofun⟩

theorem of_play (played : (new pageSize scope).play moves = some session) :
    session.HeldBy ((new pageSize scope).holder? moves) := by
  refine play_induction (fun moves session => session.HeldBy ((new pageSize scope).holder? moves))
    ⟨rfl, nofun⟩ ?_ played
  intro moves middle move next before held moved
  rw [holder?, watch_concat _ _ before]
  exact held.of_move moved

end HeldBy

/-! ### Whoever is turned away -/

/-- A request for more lines that is turned away, and may still have to leave. -/
def MoreLines.isRefused : MoreLines → Bool
  | .leave result | .release result | .done result => result.toOption == some false
  | _ => false

/-- By a move the request of its task is turned away, which has come to a stage. -/
def TurnsAway (session : Session) (move : Move) (stage : MoreLines) : Prop :=
  ∃ next stage', session.move move = some next ∧
    session.linesOf? (session.mover move) = some stage ∧
    next.linesOf? (session.mover move) = some stage' ∧
    stage.isRefused = false ∧ stage'.isRefused = true

theorem TurnsAway.under {stage : MoreLines} (away : session.TurnsAway move stage) :
    session.linesOf? (session.mover move) = some stage := by
  obtain ⟨_, _, -, under, -⟩ := away
  exact under

/-- A request that comes to nothing was turned away by one move. -/
theorem exists_turnsAway (played : (new pageSize scope).play moves = some final)
    {stage : MoreLines} (ended : final.linesOf? task = some stage)
    (refused : stage.isRefused = true) :
    ∃ before move after session stage, moves = before ++ move :: after ∧
      (new pageSize scope).play before = some session ∧ session.mover move = task ∧
      session.TurnsAway move stage := by
  refine play_induction (fun moves final => ∀ stage, final.linesOf? task = some stage →
    stage.isRefused = true → ∃ before move after session stage, moves = before ++ move :: after ∧
      (new pageSize scope).play before = some session ∧ session.mover move = task ∧
      session.TurnsAway move stage) (fun _ ended => by cases ended) ?_ played stage ended refused
  intro moves middle move next before ih moved stage ended refused
  -- What was turned away before the last move was turned away by an earlier one.
  have earlier (stage' : MoreLines) (under : middle.linesOf? task = some stage')
      (refused : stage'.isRefused = true) :
      ∃ before move' after session stage, moves ++ [move] = before ++ move' :: after ∧
        (new pageSize scope).play before = some session ∧ session.mover move' = task ∧
        session.TurnsAway move' stage := by
    obtain ⟨first, away, rest, session, stage, rfl, found⟩ := ih stage' under refused
    refine ⟨first, away, rest ++ [move], session, stage, ?_, found⟩
    rw [List.append_assoc, List.cons_append]
  by_cases mover : task = middle.mover move
  · subst mover
    cases LinesShift.of_move moved with
    | @step was is _ under advanced goes =>
      obtain rfl := Option.some.inj (goes.symm.trans ended)
      cases unrefused : was.isRefused with
      | true => exact earlier was under unrefused
      | false =>
        exact ⟨moves, move, [], middle, was, rfl, before, rfl, next, is, moved, under, goes,
          unrefused, refused⟩
    | begin _ _ begun =>
      cases begun.symm.trans ended
      cases refused
    | rest _ idle _ => cases idle.symm.trans ended
  · exact earlier stage ((linesOf?_of_other moved mover).symm.trans ended) refused

/-- The three places at which a request can be turned away. -/
inductive TurnsAway.Place (session : Session) : MoreLines → Prop
  | select (nothing : session.world.store.selectedRepository? = none) : Place session .select
  | claim (repository : Repository) (busy : session.world.display.isLoadingMore = true) :
      Place session (.claim repository)
  | guard (repository : Repository)
      (closed : session.world.store.guard? repository.id ≠ some false) :
      Place session (.loading repository .guard)

theorem MoreLines.eq_of_isRefused_ofLoadMore {repository : Repository} {stage : LoadMore}
    (refused : (ofLoadMore repository stage).isRefused = true) : stage = .done (.ok false) := by
  cases stage with
  | done result =>
    match result with
    | .ok true | .error _ => cases refused
    | .ok false => rfl
  | _ => cases refused

theorem TurnsAway.Place.of_advance {world' : World} {reply : Option Reply}
    {stage stage' : MoreLines} (advanced : stage.advance task session.world reply =
      some (world', stage')) (unrefused : stage.isRefused = false)
    (refused : stage'.isRefused = true) : TurnsAway.Place session stage := by
  cases stage with
  | select =>
    cases reply with
    | some _ => cases advanced
    | none =>
      rw [MoreLines.advance] at advanced
      split at advanced <;> cases advanced
      next nothing => exact .select nothing
      next => cases refused
  | claim repository =>
    obtain ⟨busy, -, -⟩ | ⟨-, -, rfl⟩ := MoreLines.eq_of_advance_claim advanced
    · exact .claim repository busy
    · cases refused
  | enter _ =>
    cases reply <;> cases advanced
    split at refused <;> cases refused
  | waiting _ =>
    cases reply with
    | some _ => cases advanced
    | none =>
      rw [MoreLines.advance] at advanced
      split at advanced <;> cases advanced
      cases refused
  | loading repository stage =>
    obtain ⟨_, stepped, rfl⟩ := exists_of_map_eq_some advanced
    obtain rfl := MoreLines.eq_of_isRefused_ofLoadMore refused
    -- Of the stages of a turn only the guard can refuse.
    cases stage with
    | guard =>
      refine .guard repository fun isOpen => ?_
      cases reply with
      | some _ => cases stepped
      | none =>
        rw [LoadMore.advance_guard_of_open isOpen] at stepped
        cases stepped
    | fetching _ | unmark _ => exact absurd rfl (LoadMore.ne_refused rfl stepped)
    | done _ => cases stepped
  | showing _ =>
    obtain ⟨shown, -, rfl⟩ := exists_of_map_eq_some advanced
    cases shown <;> cases refused
  | leave result =>
    cases reply <;> cases advanced
    cases unrefused.symm.trans refused
  | release result =>
    cases reply <;> cases advanced
    cases unrefused.symm.trans refused
  | done _ => cases advanced

theorem TurnsAway.place {stage : MoreLines} (away : session.TurnsAway move stage) :
    TurnsAway.Place session stage := by
  obtain ⟨next, stage', moved, under, goes, unrefused, refused⟩ := away
  cases LinesShift.of_move moved with
  | begin idle _ _ => cases idle.symm.trans under
  | rest idle _ _ => cases idle.symm.trans under
  | step under' advanced goes' =>
    cases Option.some.inj (under'.symm.trans under)
    cases Option.some.inj (goes'.symm.trans goes)
    exact .of_advance advanced unrefused refused

/-- A request that comes to the mark while it is there is turned away. -/
theorem turnsAway_of_busy {repository : Repository} (moved : session.move move = some next)
    (claims : session.linesOf? (session.mover move) = some (.claim repository))
    (busy : session.world.display.isLoadingMore = true) :
    session.TurnsAway move (.claim repository) := by
  cases LinesShift.of_move moved with
  | begin idle _ _ => cases idle.symm.trans claims
  | rest idle _ _ => cases idle.symm.trans claims
  | step under advanced goes =>
    cases Option.some.inj (under.symm.trans claims)
    obtain ⟨-, -, rfl⟩ | ⟨free, -, -⟩ := MoreLines.eq_of_advance_claim advanced
    · exact ⟨next, _, moved, claims, goes, rfl, rfl⟩
    · cases free.symm.trans busy

/-! ### Reasons -/

/-- The reasons for which a request may be turned away, after the moves of a run: nothing is
selected, or a request for the same repository holds the mark, or when its turn has come its
repository has no rows or more rows are being added to them. -/
inductive Excused (first : Session) (before : List Move) (session : Session) : MoreLines → Prop
  | unselected (nothing : session.world.store.selected? = none) :
      Excused first before session .select
  | held {repository : Repository} {other : Nat}
      (holder : first.holder? before = some (other, repository.id))
      (holding : session.Holding other) : Excused first before session (.claim repository)
  | bare {repository : Repository}
      (bare : session.world.store.cached.get? repository.id = none) :
      Excused first before session (.loading repository .guard)
  | passed {repository : Repository} {other : Nat}
      (passed : session.Outstanding repository.id other) :
      Excused first before session (.loading repository .guard)

namespace Excused

theorem of_unselected (played : (new pageSize scope).play moves = some session)
    (nothing : session.world.store.selectedRepository? = none) :
    Excused (new pageSize scope) moves session .select := by
  refine .unselected (Option.eq_none_iff_forall_ne_some.mpr fun id selected => ?_)
  obtain ⟨_, found, -⟩ := (Catalogued.of_play played).exists_of_selected? selected
  cases nothing.symm.trans found

/-- A request whose rows are not open has none, or some other request is at them. -/
theorem of_closed (played : (new pageSize scope).play moves = some session)
    {repository : Repository} (closed : session.world.store.guard? repository.id ≠ some false) :
    Excused (new pageSize scope) moves session (.loading repository .guard) := by
  cases rows : session.world.store.cached.get? repository.id with
  | none => exact .bare rows
  | some cached =>
    have shut : session.world.store.guard? repository.id = some true := by
      rw [Store.guard?, rows, Option.map_some] at closed ⊢
      simpa using closed
    obtain ⟨other, -, passed⟩ := exists_closedBy_of_play played shut
    exact .passed passed

end Excused

/-- In a run requests for more lines are turned away only for reasons of their own repositories. -/
def PerRepository (first : Session) (moves : List Move) : Prop :=
  ∀ before move after session stage, moves = before ++ move :: after →
    first.play before = some session → session.TurnsAway move stage →
    first.Excused before session stage

/-- In a run no request comes to the mark while one for another repository holds it. -/
def Unmixed (first : Session) (moves : List Move) : Prop :=
  ∀ before move after session repository other id, moves = before ++ move :: after →
    first.play before = some session →
    session.linesOf? (session.mover move) = some (.claim repository) →
    first.holder? before = some (other, id) → id = repository.id

/-- A request that comes to nothing was turned away by a move, and the requests of a run are turned
away for reasons of their own repositories exactly if none of them comes to the mark while one for
another repository holds it. -/
theorem perRepository_iff_unmixed (played : (new pageSize scope).play moves = some final) :
    (∀ task, final.activities[task]? = some (.moreLines (.done (.ok false))) →
      ∃ before move after session stage, moves = before ++ move :: after ∧
        (new pageSize scope).play before = some session ∧ session.mover move = task ∧
        session.TurnsAway move stage) ∧
    ((new pageSize scope).PerRepository moves ↔ (new pageSize scope).Unmixed moves) := by
  refine ⟨fun task ended => exists_turnsAway played (part?_of_held ended) rfl, ?_, ?_⟩
  · intro reasons before move after session repository other id split reached claims holder
    have busy : session.world.display.isLoadingMore = true := by
      rw [(HeldBy.of_play reached).mark, holder]
      rfl
    subst split
    rw [play_append_of_play reached] at played
    obtain ⟨next, moved, -⟩ := Option.bind_eq_some_iff.mp played
    -- The request is turned away, and the only excuse at the mark names who holds it.
    have away := turnsAway_of_busy moved claims busy
    cases reasons before move after session _ rfl reached away with
    | held holder' _ =>
      cases holder.symm.trans holder'
      rfl
  · intro unmixed before move after session stage split reached away
    cases away.place with
    | select nothing => exact .of_unselected reached nothing
    | claim repository busy =>
      have held := HeldBy.of_play reached
      obtain ⟨⟨other, id⟩, holder⟩ := Option.isSome_iff_exists.mp (held.mark ▸ busy)
      obtain rfl := unmixed before move after session repository other id split reached away.under
        holder
      exact .held holder (held.holding holder)
    | guard repository closed => exact .of_closed reached closed

/-- Two requests for more lines of one repository; the first one holds the mark when the second one
comes to it. -/
def repeatedRun : List Move :=
  [.start (.edit (.add sampleRepository)), .advance 0 none,
    .start (.edit (.activate (some ⟨"r"⟩))), .advance 1 none,
    .start .moreLines, .advance 2 none, .advance 2 none,
    .start .moreLines, .advance 3 none, .advance 3 none]

theorem perRepository_repeatedRun :
    (new 1 .lineage).play repeatedRun = some (sampleAfter repeatedRun) ∧
      (sampleAfter repeatedRun).activities[3]? = some (.moreLines (.done (.ok false))) ∧
      (new 1 .lineage).PerRepository repeatedRun := by
  have played : (new 1 .lineage).play repeatedRun = some (sampleAfter repeatedRun) := rfl
  refine ⟨played, rfl, (perRepository_iff_unmixed played).2.mpr ?_⟩
  intro before move after session repository other id split reached claims holder
  have here : repeatedRun[before.length]? = some move := by rw [split]; simp
  have inside : before.length < 10 := by
    have length := congrArg List.length split
    simp [repeatedRun] at length
    omega
  have taken : before = repeatedRun.take before.length := by rw [split]; simp
  generalize before.length = count at here inside taken
  subst taken
  interval_cases count <;> cases here <;> cases reached <;> cases claims <;> cases holder
  rfl

/-- A repository with another source. -/
def otherRepository : Repository := { id := ⟨"s"⟩, root := "/s", source := some 1 }

/-- Two repositories have rows. A request for more lines of the first one holds the mark, the second
one is selected, and a request for more lines of that one comes to the mark. -/
def mixedRun : List Move :=
  sampleRun ++ asking 1 otherRepository sampleLineage ++ storing 1 (samplePage "1") ++
    [.start (.edit (.add sampleRepository)), .advance 2 none,
      .start (.edit (.add otherRepository)), .advance 3 none,
      .start (.edit (.activate (some ⟨"r"⟩))), .advance 4 none,
      .start .moreLines, .advance 5 none, .advance 5 none,
      .start (.edit (.activate (some ⟨"s"⟩))), .advance 6 none,
      .start .moreLines, .advance 7 none]

/-- A request can be turned away because of another repository. -/
theorem not_perRepository_mixedRun :
    ¬ ∀ (moves : List Move) (final : Session), (new 1 .lineage).play moves = some final →
      (new 1 .lineage).PerRepository moves := by
  intro reasons
  have away : (sampleAfter mixedRun).TurnsAway (.advance 7 none) (.claim otherRepository) :=
    ⟨_, _, rfl, rfl, rfl, rfl, rfl⟩
  have holder : (new 1 .lineage).holder? mixedRun = some (5, ⟨"r"⟩) := rfl
  cases reasons (mixedRun ++ [.advance 7 none]) _ rfl mixedRun _ [] (sampleAfter mixedRun) _ rfl rfl
    away with
  | held holder' _ =>
    obtain ⟨-, same⟩ := Prod.mk.inj (Option.some.inj (holder.symm.trans holder'))
    exact absurd same (by decide)

end CommitHistory.Session
