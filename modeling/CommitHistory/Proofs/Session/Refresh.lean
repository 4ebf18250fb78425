/-
# The refreshes of a run

A refresh is asked for by a call of its own, by the reaction to a notice, or by a reader that
has missed notices. Wherever it is under way, it takes the steps of a refresh, and all that it
leaves for other refreshes to see are the marks at the tree. So the refreshes of a run can be
told by their events, one at most for each move.

## Main definitions

* `Activity.refresh?`, `Session.refreshOf?` — the refresh that is under way.
* `RefreshEvent`, `Session.refreshHistory` — what is put down about the refreshes of a run.

## Main results

* `Activity.Scene.of_advance` — what a step of an activity does, seen from the tree.
* `Session.RefreshShift.of_move` — a move is a step of a refresh, begins one, or neither.
* `Session.RefreshShift.of_under` — a refresh stays where it is, or takes a step itself.
-/

import CommitHistory.Proofs.Session.Display

namespace CommitHistory.Session

/-! ### The refresh under way -/

/-- A refresh, unless it is over. -/
def Refresh.underWay? : Refresh → Option Refresh
  | .done _ => none
  | stage => some stage

/-- The refresh under way in the reaction to a notice. -/
def Handling.refresh? : Handling → Option Refresh
  | .refreshing stage => stage.underWay?
  | _ => none

/-- The refresh under way in a reader of notices. -/
def Follow.refresh? : Follow → Option Refresh
  | .handling _ stage => stage.refresh?
  | .refreshing _ stage => stage.underWay?
  | _ => none

/-- The refresh that is under way in an activity. -/
def Activity.refresh? : Activity → Option Refresh
  | .refresh stage => stage.underWay?
  | .handle stage => stage.refresh?
  | .follow stage => stage.refresh?
  | _ => none

theorem Refresh.eq_of_underWay? {stage stage' : Refresh} (under : stage.underWay? = some stage') :
    stage = stage' := by
  cases stage <;> cases under <;> rfl

@[simp] theorem Handling.refresh?_ofRefresh (stage : Refresh) :
    (Handling.ofRefresh stage).refresh? = stage.underWay? := by
  cases stage <;> rfl

@[simp] theorem Follow.refresh?_ofHandling (feed : Feed) (stage : Handling) :
    (Follow.ofHandling feed stage).refresh? = stage.refresh? := by
  cases stage <;> rfl

@[simp] theorem Follow.refresh?_ofRefresh (feed : Feed) (stage : Refresh) :
    (Follow.ofRefresh feed stage).refresh? = stage.underWay? := by
  cases stage <;> rfl

variable {task : Nat} {world world' : World} {reply : Option Reply}

/-- A step, seen from refreshes. Before it the refresh `before` is under way, after it `after`. -/
inductive Refresh.Seen (task : Nat) (world : World) (reply : Option Reply) :
    World → Option Refresh → Option Refresh → Prop
  | step {world' : World} {stage stage' : Refresh}
      (steps : Refresh.Steps task world stage reply world' stage') :
      Seen task world reply world' (some stage) stage'.underWay?
  | begin (clear : Bool) : Seen task world reply world none (some (.start clear))
  | rest : Seen task world reply world none none

theorem Refresh.seen_of_advance {stage next : Refresh}
    (advanced : stage.advance task world reply = some (world', next)) :
    Refresh.Seen task world reply world' stage.underWay? next.underWay? := by
  cases stage with
  | done _ => cases advanced
  | _ => exact .step (.of_advance advanced)

theorem Handling.seen_of_advance {stage next : Handling}
    (advanced : stage.advance task world reply = some (world', next)) :
    Refresh.Seen task world reply world' stage.refresh? next.refresh? := by
  cases stage with
  | start notice =>
    -- Some notices are a reason to refresh at once, the others are not.
    cases reply <;> cases notice <;> cases advanced <;>
      first | exact .begin false | exact .rest
  | compare id =>
    cases reply <;> cases advanced
    split
    · exact .begin false
    · exact .rest
  | refreshing stage =>
    obtain ⟨stage', stepped, rfl⟩ := exists_of_map_eq_some advanced
    rw [refresh?_ofRefresh]
    exact Refresh.seen_of_advance stepped
  | done _ => cases advanced

theorem Follow.seen_of_advance {stage next : Follow}
    (advanced : stage.advance task world reply = some (world', next)) :
    Refresh.Seen task world reply world' stage.refresh? next.refresh? := by
  cases stage with
  | reading feed =>
    cases reply with
    | some _ => cases advanced
    | none =>
      rw [advance] at advanced
      split at advanced <;> cases advanced
      next => exact .rest
      next => exact .begin false
      next => exact .rest
  | handling feed stage =>
    obtain ⟨stage', stepped, rfl⟩ := exists_of_map_eq_some advanced
    rw [refresh?_ofHandling]
    exact Handling.seen_of_advance stepped
  | refreshing feed stage =>
    obtain ⟨stage', stepped, rfl⟩ := exists_of_map_eq_some advanced
    rw [refresh?_ofRefresh]
    exact Refresh.seen_of_advance stepped
  | _ => cases advanced

/-- A request for more lines, wherever it stands. -/
def Activity.moreLines? : Activity → Option MoreLines
  | .moreLines stage => some stage
  | _ => none

/-- A step of an activity, seen from the tree that is shown: a refresh takes a step or begins, a
request for more lines takes a step, or the tree stays as it is. -/
inductive Activity.Scene (task : Nat) (world : World) (reply : Option Reply) (world' : World)
    (activity after : Activity) : Prop
  | refresh {stage stage' : Refresh} (under : activity.refresh? = some stage)
      (steps : Refresh.Steps task world stage reply world' stage')
      (goes : after.refresh? = stage'.underWay?) (apart : activity.moreLines? = none)
      (apart' : after.moreLines? = none)
  | begin (clear : Bool) (idle : activity.refresh? = none)
      (begun : after.refresh? = some (.start clear)) (same : world' = world)
      (apart : activity.moreLines? = none) (apart' : after.moreLines? = none)
  | moreLines {stage stage' : MoreLines} (under : activity = .moreLines stage)
      (steps : MoreLines.Steps task world stage reply world' stage')
      (goes : after = .moreLines stage')
  | rest (idle : activity.refresh? = none) (idle' : after.refresh? = none)
      (display : world'.display = world.display) (apart : activity.moreLines? = none)
      (apart' : after.moreLines? = none)

theorem Activity.Scene.of_seen {activity after : Activity}
    (seen : Refresh.Seen task world reply world' activity.refresh? after.refresh?)
    (apart : activity.moreLines? = none) (apart' : after.moreLines? = none) :
    Activity.Scene task world reply world' activity after := by
  generalize before : activity.refresh? = was at seen
  generalize goes : after.refresh? = is at seen
  cases seen with
  | step steps => exact .refresh before steps goes apart apart'
  | begin clear => exact .begin clear before goes rfl apart apart'
  | rest => exact .rest before goes rfl apart apart'

theorem Activity.Scene.of_advance {activity after : Activity}
    (advanced : activity.advance task world reply = some (world', after)) :
    Activity.Scene task world reply world' activity after := by
  cases activity with
  | fetch _ _ =>
    obtain ⟨_, stepped, rfl⟩ := exists_of_map_eq_some advanced
    exact .rest rfl rfl (Fetch.display_of_advance stepped) rfl rfl
  | loadMore _ _ =>
    obtain ⟨_, stepped, rfl⟩ := exists_of_map_eq_some advanced
    exact .rest rfl rfl (LoadMore.display_of_advance stepped) rfl rfl
  | ancestor _ _ =>
    obtain ⟨_, stepped, rfl⟩ := exists_of_map_eq_some advanced
    obtain rfl := Ancestor.world_of_advance stepped
    exact .rest rfl rfl rfl rfl rfl
  | edit change =>
    cases reply with
    | some _ => cases advanced
    | none =>
      obtain ⟨rfl, rfl⟩ := advanced
      exact .rest rfl rfl (Edit.display_apply world change) rfl rfl
  | remove _ =>
    obtain ⟨_, stepped, rfl⟩ := exists_of_map_eq_some advanced
    exact .rest rfl rfl (Removal.display_of_advance stepped) rfl rfl
  | children _ =>
    obtain ⟨_, stepped, rfl⟩ := exists_of_map_eq_some advanced
    exact .rest rfl rfl (Children.display_of_advance stepped) rfl rfl
  | refresh _ =>
    obtain ⟨_, stepped, rfl⟩ := exists_of_map_eq_some advanced
    exact .of_seen (Refresh.seen_of_advance stepped) rfl rfl
  | moreLines _ =>
    obtain ⟨_, stepped, rfl⟩ := exists_of_map_eq_some advanced
    exact .moreLines rfl (.of_advance stepped) rfl
  | handle _ =>
    obtain ⟨_, stepped, rfl⟩ := exists_of_map_eq_some advanced
    exact .of_seen (Handling.seen_of_advance stepped) rfl rfl
  | follow _ =>
    obtain ⟨_, stepped, rfl⟩ := exists_of_map_eq_some advanced
    exact .of_seen (Follow.seen_of_advance stepped) rfl rfl
  | openLine _ =>
    obtain ⟨_, stepped, rfl⟩ := exists_of_map_eq_some advanced
    obtain rfl := Opening.world_of_advance stepped
    exact .rest rfl rfl rfl rfl rfl
  | ask _ =>
    cases reply with
    | none => cases advanced
    | some _ =>
      obtain ⟨rfl, rfl⟩ := advanced
      exact .rest rfl rfl rfl rfl rfl
  | edited | told _ => cases advanced

/-! ### Marks and events -/

/-- The marks after the next step of a refresh. Whoever is turned away found the first mark set. -/
def Refresh.marksAfter (marks : Marks) : Refresh → Marks
  | .request clear => { marks with wantsClear := marks.wantsClear || clear }
  | .trigger => { marks with isPending := true }
  | .tryStart _ => { marks with isRefreshing := true }
  | .takePending _ => { marks with isPending := false }
  | .updating _ .begin => { marks with wantsClear := false }
  | .stop _ => { marks with isRefreshing := false }
  | _ => marks

theorem Refresh.Steps.marks {stage next : Refresh}
    (steps : Refresh.Steps task world stage reply world' next) :
    world'.display.marks = stage.marksAfter world.display.marks := by
  cases steps with
  | turnAway busy => simp only [marksAfter, Display.marks, busy]
  | @work _ update _ _ _ steps other _ =>
    rw [steps.marks other]
    cases update <;> first | rfl | exact absurd rfl other
  | _ => rfl

namespace Refresh

variable {stage : Refresh} {marks : Marks}

theorem isRefreshing_marksAfter_iff :
    (stage.marksAfter marks).isRefreshing = true ↔
      (∃ runs, stage = .tryStart runs) ∨
        marks.isRefreshing = true ∧ ∀ runs, stage ≠ .stop runs := by
  cases stage with
  | updating _ update => cases update <;> simp [marksAfter]
  | _ => simp [marksAfter]

theorem isPending_marksAfter_iff :
    (stage.marksAfter marks).isPending = true ↔
      stage = .trigger ∨ marks.isPending = true ∧ ∀ runs, stage ≠ .takePending runs := by
  cases stage with
  | updating _ update => cases update <;> simp [marksAfter]
  | _ => simp [marksAfter]

theorem wantsClear_marksAfter_iff :
    (stage.marksAfter marks).wantsClear = true ↔
      stage = .request true ∨
        marks.wantsClear = true ∧ ∀ runs, stage ≠ .updating runs .begin := by
  cases stage with
  | request clear => cases clear <;> simp [marksAfter]
  | updating _ update => cases update <;> simp [marksAfter]
  | _ => simp [marksAfter]

end Refresh

/-- What is put down about refreshes, each time with the task that carries the refresh out. -/
inductive RefreshEvent where
  /-- A refresh begins, and may be one that has the rows dropped. -/
  | called (task : Nat) (clear : Bool)
  /-- It has said that the next update is to drop the rows. -/
  | wanted (task : Nat)
  /-- It has asked for an update. -/
  | requested (task : Nat)
  /-- An update begins. -/
  | began (task : Nat)
  /-- An update has its turn and sees that it is to drop the rows. -/
  | cleared (task : Nat)
  /-- An update is over. -/
  | ended (task : Nat)
  /-- A refresh is over, and has run so many updates. -/
  | returned (task runs : Nat)
deriving DecidableEq, Repr

/-- What is put down about the next step of a refresh. -/
def Refresh.events (task : Nat) (marks : Marks) : Refresh → List RefreshEvent
  | .request clear => if clear then [.wanted task] else []
  | .trigger => [.requested task]
  | .tryStart runs => if marks.isRefreshing then [.returned task runs] else []
  | .takePending _ => if marks.isPending then [.began task] else []
  | .updating _ .begin => if marks.wantsClear then [.cleared task] else []
  | .updating _ .leave => [.ended task]
  | .lookAgain runs => if marks.isPending then [] else [.returned task runs]
  | _ => []

/-- Whether a refresh that begins is to have the rows dropped. -/
def Refresh.clears : Refresh → Bool
  | .request clear => clear
  | _ => false

theorem Refresh.clears_start (clear : Bool) : (Refresh.start clear).clears = clear := by
  cases clear <;> rfl

/-- The refresh that is under way in the activity of a task. -/
def refreshOf? (session : Session) (task : Nat) : Option Refresh :=
  session.part? Activity.refresh? task

/-- The marks that are set. -/
def marks (session : Session) : Marks := session.world.display.marks

/-- What is put down about the refreshes when a move is made. -/
def refreshEvents (session : Session) (move : Move) : List RefreshEvent :=
  match session.refreshOf? (session.mover move) with
  | some stage => stage.events (session.mover move) session.marks
  | none =>
    ((session.move move).bind fun next => next.refreshOf? (session.mover move)).toList.map
      fun stage => .called (session.mover move) stage.clears

/-- What is put down about the refreshes of a run. -/
def refreshHistory (session : Session) (moves : List Move) : List RefreshEvent :=
  session.trace refreshEvents moves

/-! ### Moves -/

/-- What a move does, seen from refreshes. -/
inductive RefreshShift (session : Session) (move : Move) (next : Session) : Prop
  | step {task : Nat} {stage stage' : Refresh} {reply : Option Reply} {world' : World}
      (under : session.refreshOf? task = some stage)
      (steps : Refresh.Steps task session.world stage reply world' stage')
      (marks : next.marks = stage.marksAfter session.marks)
      (mine : next.refreshOf? task = stage'.underWay?)
      (others : ∀ other, other ≠ task → next.refreshOf? other = session.refreshOf? other)
      (events : session.refreshEvents move = stage.events task session.marks)
  | begin {task : Nat} (clear : Bool) (idle : session.refreshOf? task = none)
      (marks : next.marks = session.marks)
      (mine : next.refreshOf? task = some (.start clear))
      (others : ∀ other, other ≠ task → next.refreshOf? other = session.refreshOf? other)
      (events : session.refreshEvents move = [.called task clear])
  | rest (marks : next.marks = session.marks)
      (refreshes : ∀ task, next.refreshOf? task = session.refreshOf? task)
      (events : session.refreshEvents move = [])

variable {session next : Session} {move : Move}

theorem refreshEvents_of_under {stage : Refresh}
    (under : session.refreshOf? (session.mover move) = some stage) :
    session.refreshEvents move = stage.events (session.mover move) session.marks := by
  rw [refreshEvents, under]

theorem refreshEvents_of_none (moved : session.move move = some next)
    (idle : session.refreshOf? (session.mover move) = none) :
    session.refreshEvents move =
      (next.refreshOf? (session.mover move)).toList.map fun stage =>
        .called (session.mover move) stage.clears := by
  rw [refreshEvents, idle, moved, Option.bind_some]

/-- A call begins no refresh, or at its first stage. -/
theorem Call.refresh?_begin (call : Call) :
    call.begin.refresh? = none ∨ ∃ clear, call.begin.refresh? = some (.start clear) := by
  cases call with
  | refresh clear => cases clear <;> exact Or.inr ⟨_, rfl⟩
  | _ => exact Or.inl rfl

/-- Every move is a step of a refresh, begins one, or neither. -/
theorem RefreshShift.of_move (moved : session.move move = some next) :
    RefreshShift session move next := by
  have others (task : Nat) (other : task ≠ session.mover move) :
      next.refreshOf? task = session.refreshOf? task := part?_of_other Activity.refresh? moved other
  have all (idle : session.refreshOf? (session.mover move) = none)
      (mine : next.refreshOf? (session.mover move) = none) (task : Nat) :
      next.refreshOf? task = session.refreshOf? task := by
    by_cases same : task = session.mover move
    · rw [same, mine, idle]
    · exact others task same
  have begins {clear : Bool} (idle : session.refreshOf? (session.mover move) = none)
      (mine : next.refreshOf? (session.mover move) = some (.start clear))
      (marks : next.marks = session.marks) : RefreshShift session move next := by
    refine .begin clear idle marks mine others ?_
    rw [refreshEvents_of_none moved idle, mine, Option.toList_some, List.map_singleton,
      Refresh.clears_start]
  have rests (idle : session.refreshOf? (session.mover move) = none)
      (mine : next.refreshOf? (session.mover move) = none)
      (marks : next.marks = session.marks) : RefreshShift session move next := by
    refine .rest marks (all idle mine) ?_
    rw [refreshEvents_of_none moved idle, mine, Option.toList_none, List.map_nil]
  obtain ⟨call, same, absent, begun⟩ | ⟨reply, activity, after, held, held', stepped⟩ :=
    activities_of_move moved
  · have idle : session.refreshOf? (session.mover move) = none := part?_of_absent absent
    have mine : next.refreshOf? (session.mover move) = call.begin.refresh? := part?_of_held begun
    have marks := congrArg (fun world => world.display.marks) same
    obtain silent | ⟨clear, begun⟩ := call.refresh?_begin
    · exact rests idle (mine.trans silent) marks
    · exact begins idle (mine.trans begun) marks
  · have before : session.refreshOf? (session.mover move) = activity.refresh? := part?_of_held held
    have mine : next.refreshOf? (session.mover move) = after.refresh? := part?_of_held held'
    cases Activity.Scene.of_advance stepped with
    | refresh under steps goes _ _ =>
      exact .step (before.trans under) steps steps.marks (mine.trans goes) others
        (refreshEvents_of_under (before.trans under))
    | begin clear idle begun same _ _ =>
      exact begins (before.trans idle) (mine.trans begun)
        (congrArg (fun world => world.display.marks) same)
    | moreLines under steps goes =>
      subst under goes
      exact rests before mine steps.marks
    | rest idle idle' display _ _ =>
      exact rests (before.trans idle) (mine.trans idle') (congrArg Display.marks display)

/-- A refresh that is under way stays where it is, or takes a step itself. -/
theorem RefreshShift.of_under (shift : RefreshShift session move next) {task : Nat}
    {stage : Refresh} (under : session.refreshOf? task = some stage) :
    next.refreshOf? task = some stage ∨
      ∃ reply world' stage', Refresh.Steps task session.world stage reply world' stage' ∧
        next.marks = stage.marksAfter session.marks ∧ next.refreshOf? task = stage'.underWay? ∧
        session.refreshEvents move = stage.events task session.marks := by
  cases shift with
  | rest _ refreshes _ => exact Or.inl ((refreshes task).trans under)
  | @begin mover _ idle _ _ others _ =>
    refine Or.inl ((others task ?_).trans under)
    rintro rfl
    cases idle.symm.trans under
  | @step mover before after _ _ was steps marks mine others events =>
    by_cases same : task = mover
    · subst same
      obtain rfl := Option.some.inj (under.symm.trans was)
      exact Or.inr ⟨_, _, after, steps, marks, mine, events⟩
    · exact Or.inl ((others task same).trans under)

end CommitHistory.Session
