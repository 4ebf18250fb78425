/-
# Whose turn it is to show lines

Updates and requests for more lines take turns at the tree, and lines are shown only in a turn.
So at any time one activity at most is showing lines, and nobody else replaces those that are
there.

## Main definitions

* `Activity.showing?`, `Session.showingOf?` — where an activity stands that is showing lines.
* `Activity.inTurn`, `Session.InTurn` — activities that have their turn at the tree.
* `Showing.Seen`, `Turnstile.Visit` — steps, seen from the lines and from the turnstile.

## Main results

* `Session.Exclusive.of_play` — in every run the turnstile knows who has its turn.
* `Session.Exclusive.eq_of_showingOf?` — one activity at most is showing lines.
* `Session.showing_of_move` — what a move does to the lines.
-/

import CommitHistory.Proofs.Session.Refresh

namespace CommitHistory.Session

/-! ### Showing lines -/

/-- Showing lines, unless it is over. -/
def Showing.underWay? : Showing → Option Showing
  | .done => none
  | stage => some stage

/-- Where an update stands that is showing lines. -/
def Update.showing? : Update → Option Showing
  | .showing stage => stage.underWay?
  | _ => none

/-- Where a refresh stands whose update is showing lines. -/
def Refresh.showing? : Refresh → Option Showing
  | .updating _ update => update.showing?
  | _ => none

/-- Where a request for more stands that is showing lines. -/
def MoreLines.showing? : MoreLines → Option Showing
  | .showing stage => stage.underWay?
  | _ => none

/-- Where an activity stands that is showing lines. -/
def Activity.showing? (activity : Activity) : Option Showing :=
  (activity.refresh?.bind Refresh.showing?).or (activity.moreLines?.bind MoreLines.showing?)

@[simp] theorem Update.showing?_ofShowing (stage : Showing) :
    (Update.ofShowing stage).showing? = stage.underWay? := by
  cases stage <;> rfl

@[simp] theorem MoreLines.showing?_ofShowing (stage : Showing) :
    (MoreLines.ofShowing stage).showing? = stage.underWay? := by
  cases stage <;> rfl

@[simp] theorem Refresh.bind_underWay?_showing? (stage : Refresh) :
    stage.underWay?.bind Refresh.showing? = stage.showing? := by
  cases stage <;> rfl

theorem Showing.eq_of_underWay? {stage stage' : Showing} (under : stage.underWay? = some stage') :
    stage = stage' := by
  cases stage <;> cases under <;> rfl

variable {task : Nat} {world world' : World} {reply : Option Reply}

/-- A step, seen from the lines. Before it lines are being shown at the stage `before`, and after it
at the stage `after`. -/
inductive Showing.Seen (task : Nat) (world : World) (reply : Option Reply) (world' : World) :
    Option Showing → Option Showing → Prop
  | step {stage stage' : Showing} (steps : Showing.Steps task world stage reply world' stage') :
      Seen task world reply world' (some stage) stage'.underWay?
  | begin (lines : world'.display.lines = world.display.lines)
      (fault : world'.display.fault = world.display.fault) :
      Seen task world reply world' none (some .start)
  | rest (lines : world'.display.lines = world.display.lines)
      (fault : world'.display.fault = world.display.fault) :
      Seen task world reply world' none none

theorem Showing.seen_of_advance {stage stage' : Showing}
    (advanced : stage.advance task world reply = some (world', stage')) :
    Showing.Seen task world reply world' stage.underWay? stage'.underWay? := by
  cases stage with
  | done => cases advanced
  | _ => exact .step (.of_advance advanced)

theorem Update.Steps.seen {stage stage' : Update}
    (steps : Update.Steps task world stage reply world' stage') :
    Showing.Seen task world reply world' stage.showing? stage'.showing? := by
  cases steps with
  | look on =>
    rcases on with rfl | rfl
    · exact .rest rfl rfl
    · exact .begin rfl rfl
  | find on =>
    rcases on with ⟨id, rfl⟩ | rfl
    · exact .rest rfl rfl
    · exact .begin rfl rfl
  | clear id => exact .begin rfl rfl
  | showLines advanced =>
    rw [showing?_ofShowing]
    exact Showing.seen_of_advance advanced
  | _ => exact .rest rfl rfl

theorem Refresh.Steps.seen {stage stage' : Refresh}
    (steps : Refresh.Steps task world stage reply world' stage') :
    Showing.Seen task world reply world' stage.showing? stage'.showing? := by
  cases steps with
  | look on =>
    rcases on with rfl | rfl
    · exact .rest rfl rfl
    · exact .begin rfl rfl
  | work steps => exact steps.seen
  | _ => exact .rest rfl rfl

theorem MoreLines.Steps.seen {stage stage' : MoreLines}
    (steps : MoreLines.Steps task world stage reply world' stage') :
    Showing.Seen task world reply world' stage.showing? stage'.showing? := by
  cases steps with
  | refuse early => obtain rfl | ⟨repository, rfl⟩ := early <;> exact .rest rfl rfl
  | load advanced =>
    have same := LoadMore.display_of_advance advanced
    have lines := congrArg Display.lines same
    have fault := congrArg Display.fault same
    unfold MoreLines.ofLoadMore
    split
    · exact .begin lines fault
    · exact .rest lines fault
    · exact .rest lines fault
  | showLines advanced =>
    rw [showing?_ofShowing]
    exact Showing.seen_of_advance advanced
  | _ => exact .rest rfl rfl

/-! ### Fetches -/

theorem Refresh.fetch?_of_showing? {refresh : Refresh} {stage : Showing}
    (showing : refresh.showing? = some stage) : refresh.fetch? = stage.fetch? := by
  cases refresh with
  | updating _ update =>
    cases update with
    | showing _ =>
      obtain rfl := Showing.eq_of_underWay? showing
      rfl
    | _ => cases showing
  | _ => cases showing

theorem MoreLines.fetch?_of_showing? {request : MoreLines} {stage : Showing}
    (showing : request.showing? = some stage) : request.fetch? = stage.fetch? := by
  cases request with
  | showing _ =>
    obtain rfl := Showing.eq_of_underWay? showing
    rfl
  | _ => cases showing

theorem Handling.fetch?_of_refresh? {handling : Handling} {stage : Refresh}
    (under : handling.refresh? = some stage) : handling.fetch? = stage.fetch? := by
  cases handling with
  | refreshing _ =>
    obtain rfl := Refresh.eq_of_underWay? under
    rfl
  | _ => cases under

theorem Follow.fetch?_of_refresh? {follow : Follow} {stage : Refresh}
    (under : follow.refresh? = some stage) : follow.fetch? = stage.fetch? := by
  cases follow with
  | handling _ _ => exact Handling.fetch?_of_refresh? under
  | refreshing _ _ =>
    obtain rfl := Refresh.eq_of_underWay? under
    rfl
  | _ => cases under

theorem Activity.fetch?_of_refresh? {activity : Activity} {stage : Refresh}
    (under : activity.refresh? = some stage) : activity.fetch? = stage.fetch? := by
  cases activity with
  | refresh _ =>
    obtain rfl := Refresh.eq_of_underWay? under
    rfl
  | handle _ => exact Handling.fetch?_of_refresh? under
  | follow _ => exact Follow.fetch?_of_refresh? under
  | _ => cases under

/-- While an activity is showing lines, the fetch for them is the one that is under way in it. -/
theorem Activity.fetch?_of_showing? {activity : Activity} {stage : Showing}
    (showing : activity.showing? = some stage) : activity.fetch? = stage.fetch? := by
  obtain refreshing | ⟨-, loading⟩ := Option.or_eq_some_iff.mp showing
  · obtain ⟨refresh, under, showing⟩ := Option.bind_eq_some_iff.mp refreshing
    rw [Activity.fetch?_of_refresh? under, Refresh.fetch?_of_showing? showing]
  · obtain ⟨request, under, showing⟩ := Option.bind_eq_some_iff.mp loading
    cases activity <;> cases under
    exact MoreLines.fetch?_of_showing? showing

/-! ### Turns -/

/-- An update that has its turn. -/
def Update.inTurn : Update → Bool
  | .begin | .findCleared | .clear _ | .showing _ | .leave => true
  | _ => false

/-- A refresh whose update has its turn. -/
def Refresh.inTurn : Refresh → Bool
  | .updating _ update => update.inTurn
  | _ => false

/-- A request for more that has its turn. -/
def MoreLines.inTurn : MoreLines → Bool
  | .loading _ _ | .showing _ | .leave _ => true
  | _ => false

/-- An activity that has its turn at the tree. -/
def Activity.inTurn (activity : Activity) : Bool :=
  activity.refresh?.any Refresh.inTurn || activity.moreLines?.any MoreLines.inTurn

@[simp] theorem Refresh.any_underWay?_inTurn (stage : Refresh) :
    stage.underWay?.any Refresh.inTurn = stage.inTurn := by
  cases stage <;> rfl

theorem Refresh.inTurn_of_showing? {stage : Refresh} {shown : Showing}
    (showing : stage.showing? = some shown) : stage.inTurn = true := by
  cases stage with
  | updating _ update => cases update <;> first | rfl | cases showing
  | _ => cases showing

theorem MoreLines.inTurn_of_showing? {stage : MoreLines} {shown : Showing}
    (showing : stage.showing? = some shown) : stage.inTurn = true := by
  cases stage <;> first | rfl | cases showing

/-- Whoever comes does not push out the task that is inside. -/
theorem Turnstile.admits_enter {turnstile : Turnstile} {other : Nat}
    (inside : turnstile.admits other = true) (task : Nat) :
    (turnstile.enter task).admits other = true := by
  unfold admits at inside
  unfold enter
  split
  next free =>
    rw [free] at inside
    cases inside
  next held => rw [admits, inside]

/-- A step, seen from a turnstile. Unless it ends the turn of its own task, it takes the turn of no
other, and it begins a turn only if its task is admitted. -/
inductive Turnstile.Visit (task : Nat) (turn turn' : Turnstile) : Bool → Bool → Prop
  | keep {inTurn inTurn' : Bool} (kept : ∀ other, turn.admits other = true →
      turn'.admits other = true)
      (mine : inTurn' = true → inTurn = true ∨ turn'.admits task = true) :
      Visit task turn turn' inTurn inTurn'
  | leave : Visit task turn turn' true false

theorem Turnstile.Visit.of_same {turn turn' : Turnstile} {inTurn inTurn' : Bool}
    (same : turn' = turn) (mine : inTurn' = true → inTurn = true) :
    Turnstile.Visit task turn turn' inTurn inTurn' :=
  .keep (fun _ admitted => same ▸ admitted) fun now => Or.inl (mine now)

theorem Showing.Steps.turn {stage stage' : Showing}
    (steps : Showing.Steps task world stage reply world' stage') :
    world'.display.turn = world.display.turn := by
  cases steps with
  | read advanced => exact congrArg Display.turn (Children.display_of_advance advanced)
  | _ => rfl

theorem Update.Steps.visit {stage stage' : Update}
    (steps : Update.Steps task world stage reply world' stage') :
    Turnstile.Visit task world.display.turn world'.display.turn stage.inTurn stage'.inTurn := by
  cases steps with
  | enter admitted =>
    exact .keep (fun _ inside => Turnstile.admits_enter inside task) fun _ => Or.inr admitted
  | queue => exact .keep (fun _ inside => Turnstile.admits_enter inside task) nofun
  | pass admitted => exact .keep (fun _ inside => inside) fun _ => Or.inr admitted
  | showLines advanced => exact .of_same (Showing.Steps.of_advance advanced).turn fun _ => rfl
  | leave => exact .leave
  | _ => exact .of_same rfl fun _ => rfl

theorem Refresh.Steps.visit {stage stage' : Refresh}
    (steps : Refresh.Steps task world stage reply world' stage') :
    Turnstile.Visit task world.display.turn world'.display.turn stage.inTurn stage'.inTurn := by
  cases steps with
  | look _ => exact .of_same rfl fun _ => rfl
  | work steps => exact steps.visit
  | leave => exact .leave
  | _ => exact .of_same rfl nofun

theorem MoreLines.Steps.visit {stage stage' : MoreLines}
    (steps : MoreLines.Steps task world stage reply world' stage') :
    Turnstile.Visit task world.display.turn world'.display.turn stage.inTurn stage'.inTurn := by
  cases steps with
  | enter admitted =>
    exact .keep (fun _ inside => Turnstile.admits_enter inside task) fun _ => Or.inr admitted
  | queue => exact .keep (fun _ inside => Turnstile.admits_enter inside task) nofun
  | pass admitted => exact .keep (fun _ inside => inside) fun _ => Or.inr admitted
  | load advanced =>
    exact .of_same (congrArg Display.turn (LoadMore.display_of_advance advanced)) fun _ => rfl
  | showLines advanced => exact .of_same (Showing.Steps.of_advance advanced).turn fun _ => rfl
  | leave => exact .leave
  | _ => exact .of_same rfl nofun

/-! ### Activities -/

namespace Activity

variable {activity after : Activity}

theorem moreLines?_of_refresh? {stage : Refresh} (under : activity.refresh? = some stage) :
    activity.moreLines? = none := by
  cases activity with
  | moreLines _ => cases under
  | _ => rfl

theorem showing?_of_refresh? {stage : Refresh} (under : activity.refresh? = some stage) :
    activity.showing? = stage.showing? := by
  rw [showing?, under, moreLines?_of_refresh? under, Option.bind_some, Option.bind_none,
    Option.or_none]

/-- Lines are shown only in a turn. -/
theorem inTurn_of_showing? {stage : Showing} (showing : activity.showing? = some stage) :
    activity.inTurn = true := by
  rw [inTurn, Bool.or_eq_true, Option.any_eq_true, Option.any_eq_true]
  obtain refreshing | ⟨-, loading⟩ := Option.or_eq_some_iff.mp showing
  · obtain ⟨refresh, under, showing⟩ := Option.bind_eq_some_iff.mp refreshing
    exact Or.inl ⟨refresh, under, Refresh.inTurn_of_showing? showing⟩
  · obtain ⟨request, under, showing⟩ := Option.bind_eq_some_iff.mp loading
    exact Or.inr ⟨request, under, MoreLines.inTurn_of_showing? showing⟩

/-- What a step does to the lines and to the turnstile of the tree. -/
theorem Scene.seen (scene : Scene task world reply world' activity after) :
    Showing.Seen task world reply world' activity.showing? after.showing? ∧
      Turnstile.Visit task world.display.turn world'.display.turn activity.inTurn
        after.inTurn := by
  unfold showing? inTurn
  cases scene with
  | refresh under steps goes apart apart' =>
    simpa [under, goes, apart, apart'] using ⟨steps.seen, steps.visit⟩
  | begin clear idle begun same apart apart' =>
    subst same
    have late : (Refresh.start clear).showing? = none := by cases clear <;> rfl
    have outside : (Refresh.start clear).inTurn = false := by cases clear <;> rfl
    simpa [idle, begun, apart, apart', late, outside] using
      ⟨Showing.Seen.rest rfl rfl, Turnstile.Visit.of_same rfl id⟩
  | moreLines under steps goes =>
    subst under goes
    simpa [refresh?, moreLines?] using ⟨steps.seen, steps.visit⟩
  | rest idle idle' display apart apart' =>
    simpa [idle, idle', apart, apart'] using
      ⟨Showing.Seen.rest (congrArg Display.lines display) (congrArg Display.fault display),
        Turnstile.Visit.of_same (congrArg Display.turn display) id⟩

/-- A call is in no turn when it begins. -/
theorem inTurn_begin (call : Call) : call.begin.inTurn = false := by
  cases call with
  | refresh clear => cases clear <;> rfl
  | _ => rfl

theorem showing?_begin (call : Call) : call.begin.showing? = none := by
  cases showing : call.begin.showing? with
  | none => rfl
  | some stage =>
    have now := inTurn_of_showing? showing
    rw [inTurn_begin] at now
    cases now

end Activity

/-! ### Sessions -/

variable {session next : Session} {move : Move} {moves : List Move} {pageSize : Nat} {scope : Scope}

/-- Where the activity of a task stands, if it is showing lines. -/
def showingOf? (session : Session) (task : Nat) : Option Showing :=
  session.part? Activity.showing? task

/-- The activity of a task has its turn at the tree. -/
def InTurn (session : Session) (task : Nat) : Prop :=
  ∃ activity, session.activities[task]? = some activity ∧ activity.inTurn = true

theorem inTurn_of_showingOf? {stage : Showing} (showing : session.showingOf? task = some stage) :
    session.InTurn task := by
  obtain ⟨activity, held, showing⟩ := Option.bind_eq_some_iff.mp showing
  exact ⟨activity, held, Activity.inTurn_of_showing? showing⟩

theorem showingOf?_of_refreshOf? {stage : Refresh} (under : session.refreshOf? task = some stage) :
    session.showingOf? task = stage.showing? := by
  obtain ⟨activity, held, under⟩ := Option.bind_eq_some_iff.mp under
  rw [showingOf?, part?_of_held held, Activity.showing?_of_refresh? under]

/-- What a move does to the lines. -/
theorem showing_of_move (moved : session.move move = some next) :
    ∃ reply, Showing.Seen (session.mover move) session.world reply next.world
      (session.showingOf? (session.mover move)) (next.showingOf? (session.mover move)) := by
  obtain ⟨call, same, absent, begun⟩ | ⟨reply, before, after, held, held', stepped⟩ :=
    activities_of_move moved
  · refine ⟨none, ?_⟩
    rw [showingOf?, part?, absent, showingOf?, part?_of_held begun, Activity.showing?_begin]
    exact .rest (congrArg (fun world => world.display.lines) same)
      (congrArg (fun world => world.display.fault) same)
  · refine ⟨reply, ?_⟩
    rw [showingOf?, part?_of_held held, showingOf?, part?_of_held held']
    exact (Activity.Scene.of_advance stepped).seen.1

/-- The turnstile of the tree knows who has its turn. -/
def Exclusive (session : Session) : Prop :=
  ∀ task, session.InTurn task → session.world.hasTurn task = true

namespace Exclusive

/-- One activity at most has its turn. -/
theorem eq_of_inTurn (exclusive : session.Exclusive) {first second : Nat}
    (one : session.InTurn first) (two : session.InTurn second) : first = second := by
  have here : session.world.display.turn.holder = some first := beq_iff_eq.mp (exclusive first one)
  have there : session.world.display.turn.holder = some second :=
    beq_iff_eq.mp (exclusive second two)
  exact Option.some.inj (here.symm.trans there)

/-- One activity at most is showing lines. -/
theorem eq_of_showingOf? (exclusive : session.Exclusive) {first second : Nat}
    {stage stage' : Showing} (one : session.showingOf? first = some stage)
    (two : session.showingOf? second = some stage') : first = second :=
  exclusive.eq_of_inTurn (inTurn_of_showingOf? one) (inTurn_of_showingOf? two)

theorem of_move (exclusive : session.Exclusive) (moved : session.move move = some next) :
    next.Exclusive := by
  rintro task ⟨activity, now, inTurn⟩
  have stayed (other : task ≠ session.mover move) : session.InTurn task :=
    ⟨activity, (activities_of_other moved other).symm.trans now, inTurn⟩
  obtain ⟨call, same, absent, begun⟩ | ⟨reply, before, after, held, held', stepped⟩ :=
    activities_of_move moved
  · have other : task ≠ session.mover move := by
      rintro rfl
      obtain rfl := Option.some.inj (begun.symm.trans now)
      rw [Activity.inTurn_begin] at inTurn
      cases inTurn
    exact same ▸ exclusive task (stayed other)
  · have visit := (Activity.Scene.of_advance stepped).seen.2
    generalize was : before.inTurn = inside at visit
    generalize goes : after.inTurn = inside' at visit
    by_cases same : task = session.mover move
    · subst same
      obtain rfl := Option.some.inj (held'.symm.trans now)
      cases visit with
      | keep kept mine =>
        obtain earlier | admitted := mine (goes.symm.trans inTurn)
        · exact kept _ (exclusive _ ⟨before, held, was.trans earlier⟩)
        · exact admitted
      | leave =>
        rw [goes] at inTurn
        cases inTurn
    · cases visit with
      | keep kept mine => exact kept task (exclusive task (stayed same))
      | leave =>
        -- The task that leaves was the only one that had its turn.
        exact absurd (exclusive.eq_of_inTurn (stayed same) ⟨before, held, was⟩) same

/-- In every run the turnstile of the tree knows who has its turn. -/
theorem of_play (played : (new pageSize scope).play moves = some session) : session.Exclusive :=
  play_induction (fun _ session => session.Exclusive)
    (fun _ inTurn => by obtain ⟨_, held, -⟩ := inTurn; simp [new] at held)
    (fun _ _ _ _ _ exclusive moved => exclusive.of_move moved) played

end Exclusive

end CommitHistory.Session
