/-
# Lines that show what is chosen

As long as the choice stays as it is, whoever is showing lines puts up the rows of the
selected repository, laid from pages of the scope that histories have: it has looked which
repository is selected, and its fetch has noted the scope. So once the tree is on course, with
lines that show what is chosen or that are about to be replaced by such lines, it stays on
course until the choice is another.

## Main definitions

* `Current` — lines that show what is chosen.
* `Showing.Aimed` — lines that are about to be shown will be current.
* `Session.OnCourse` — the tree shows what is chosen, or is about to.

## Main results

* `Session.OnCourse.of_start` — the tree is on course when an activity begins to show lines.
* `Session.OnCourse.of_move` — it stays on course while the choice stays as it is.
-/

import CommitHistory.Proofs.Session.Choice
import CommitHistory.Proofs.Session.Lines
import CommitHistory.Proofs.Session.Showing

namespace CommitHistory.Session

variable {history : List Event} {pageSize : Nat} {store store' : Store}
  {session next : Session} {move : Move}

/-- There are no lines, or they show the rows of the selected repository, laid from pages of the
scope that histories have. -/
def Current (history : List Event) (pageSize : Nat) (store : Store) (lines : List TreeLine) :
    Prop :=
  lines = [] ∨ ∃ id rows, store.selected? = some id ∧ lines = TreeLine.ofRows id rows ∧
    Sourced history id pageSize store.scope rows

/-- The lines that are about to be shown show what is chosen. -/
def Showing.Aimed (history : List Event) (pageSize : Nat) (store : Store) : Showing → Prop
  | .reading (.fetching repository fetch) => store.selected? = some repository.id ∧
      ∀ ticket, fetch.ticket? = some ticket → ticket.scope = store.scope
  | .putLines lines => Current history pageSize store lines
  | _ => True

/-- Stages after which lines are replaced. -/
def Showing.writes : Showing → Bool
  | .reading _ | .putLines _ | .dropLines _ => true
  | _ => false

/-- The tree shows what is chosen, or is about to, and nobody is about to show anything else. -/
structure OnCourse (history : List Event) (pageSize : Nat) (session : Session) : Prop where
  aimed : ∀ task stage, session.showingOf? task = some stage →
    stage.Aimed history pageSize session.world.store
  current : Current history pageSize session.world.store session.world.display.lines ∨
    ∃ task stage, session.showingOf? task = some stage ∧ stage.writes = true

/-! ### The choice stays as it is -/

theorem Current.of_choice {lines : List TreeLine}
    (current : Current history pageSize store lines)
    (selected : store'.selected? = store.selected?) (scope : store'.scope = store.scope)
    (later : List Event) : Current (history ++ later) pageSize store' lines := by
  obtain empty | ⟨id, rows, chosen, laid, sourced⟩ := current
  · exact Or.inl empty
  · exact Or.inr ⟨id, rows, selected.trans chosen, laid, scope ▸ sourced.append later⟩

theorem Showing.Aimed.of_choice {stage : Showing} (aimed : stage.Aimed history pageSize store)
    (selected : store'.selected? = store.selected?) (scope : store'.scope = store.scope)
    (later : List Event) : stage.Aimed (history ++ later) pageSize store' := by
  unfold Showing.Aimed at aimed ⊢
  split at aimed
  next =>
    obtain ⟨chosen, noted⟩ := aimed
    exact ⟨selected.trans chosen, fun ticket held => (noted ticket held).trans scope.symm⟩
  next => exact Current.of_choice aimed selected scope later
  next => trivial

/-! ### Steps -/

theorem Showing.underWay?_of_writes {stage : Showing} (writes : stage.writes = true) :
    stage.underWay? = some stage := by
  cases stage <;> first | rfl | cases writes

/-- A step leaves the lines as they are, and whoever was about to replace them still is; or it puts
up the lines that were read; or it takes all lines away. -/
theorem Showing.Steps.lines {task : Nat} {world world' : World} {reply : Option Reply}
    {stage stage' : Showing} (steps : Showing.Steps task world stage reply world' stage') :
    (world'.display.lines = world.display.lines ∧
        (stage.writes = true → stage'.writes = true)) ∨
      stage = .putLines world'.display.lines ∨ world'.display.lines = [] := by
  cases steps with
  | @read _ children' _ _ advanced =>
    refine Or.inl ⟨congrArg Display.lines (Children.display_of_advance advanced), fun _ => ?_⟩
    cases children' with
    | done result => cases result <;> rfl
    | _ => rfl
  | putLines lines => exact Or.inr (Or.inl rfl)
  | dropLines fault => exact Or.inr (Or.inr rfl)
  | dropFault | putFault _ => exact Or.inl ⟨rfl, nofun⟩

/-- The fetch of an activity that is reading lines is under way. -/
theorem fetchOf?_of_reading {task : Nat} {repository : Repository} {fetch : Fetch}
    (under : session.showingOf? task = some (.reading (.fetching repository fetch))) :
    session.fetchOf? task = fetch.underWay? repository := by
  obtain ⟨activity, held, showing⟩ := Option.bind_eq_some_iff.mp under
  rw [fetchOf?, held]
  exact Activity.fetch?_of_showing? showing

/-- What is read shows what is chosen. -/
theorem aimed_of_read {task : Nat} {reply : Option Reply} {world' : World}
    {children children' : Children}
    (accounted : ∀ id, session.Accounted history id pageSize 0) (catalogued : session.Catalogued)
    (under : session.showingOf? task = some (.reading children))
    (aimed : (Showing.reading children).Aimed history pageSize session.world.store)
    (advanced : children.advance task session.world reply = some (world', children')) :
    (Showing.ofChildren children').Aimed history pageSize session.world.store := by
  cases children with
  | select =>
    cases reply with
    | some _ => cases advanced
    | none =>
      rw [Children.advance] at advanced
      split at advanced <;> cases advanced
      next => exact Or.inl rfl
      next repository selected =>
        refine ⟨catalogued.selected?_of_repository selected, fun ticket held => ?_⟩
        cases held
  | fetching repository fetch =>
    obtain ⟨chosen, noted⟩ := aimed
    obtain ⟨fetch', fetched, rfl⟩ := exists_of_map_eq_some advanced
    have reading : (∃ result, fetch' = .done result) ∨
        Children.ofFetch repository fetch' = .fetching repository fetch' := by
      cases fetch' <;> simp [Children.ofFetch]
    obtain ⟨result, rfl⟩ | reading := reading
    · cases result with
      | error fault => trivial
      | ok rows =>
        -- The rows were cached, or the fetch has laid them for the scope that it noted.
        have ongoing : session.fetchOf? task = some (repository, fetch) := by
          rw [fetchOf?_of_reading under]
          cases fetch <;> first | rfl | cases fetched
        obtain ⟨scope, same | ⟨ticket, held, same⟩, sourced⟩ :=
          (accounted repository.id).sourced_of_advance ongoing fetched
        · exact Or.inr ⟨repository.id, rows, chosen, rfl, same ▸ sourced⟩
        · have same := same.symm.trans (noted ticket held)
          exact Or.inr ⟨repository.id, rows, chosen, rfl, same ▸ sourced⟩
    · rw [reading]
      refine ⟨chosen, fun ticket held => ?_⟩
      obtain ⟨-, earlier | rfl⟩ := (Fetch.Steps.of_advance fetched).ticket held
      · exact noted ticket earlier
      · rfl
  | done _ => cases advanced

/-- Whoever shows lines goes on to show what is chosen. -/
theorem aimed_of_steps {task : Nat} {reply : Option Reply} {world' : World} {stage stage' : Showing}
    (accounted : ∀ id, session.Accounted history id pageSize 0) (catalogued : session.Catalogued)
    (under : session.showingOf? task = some stage)
    (aimed : stage.Aimed history pageSize session.world.store)
    (steps : Showing.Steps task session.world stage reply world' stage') :
    stage'.Aimed history pageSize session.world.store := by
  cases steps with
  | read advanced => exact aimed_of_read accounted catalogued under aimed advanced
  | _ => trivial

/-! ### Moves -/

namespace OnCourse

/-- The tree is on course when an activity begins to show lines, for it is the only one. -/
theorem of_start (exclusive : session.Exclusive) {task : Nat}
    (starting : session.showingOf? task = some .start) : OnCourse history pageSize session where
  aimed other stage showing := by
    obtain rfl := exclusive.eq_of_showingOf? starting showing
    obtain rfl := Option.some.inj (starting.symm.trans showing)
    trivial
  current := Or.inr ⟨task, .start, starting, rfl⟩

/-- After a move whoever is showing lines shows what was chosen before it. -/
theorem aimed_of_move (onCourse : OnCourse history pageSize session)
    (accounted : ∀ id, session.Accounted history id pageSize 0) (catalogued : session.Catalogued)
    (moved : session.move move = some next) {task : Nat} {stage : Showing}
    (showing : next.showingOf? task = some stage) :
    stage.Aimed history pageSize session.world.store := by
  by_cases mover : task = session.mover move
  · obtain ⟨reply, seen⟩ := showing_of_move moved
    generalize before : session.showingOf? (session.mover move) = was at seen
    rw [← mover, showing] at seen
    generalize goes : some stage = after at seen
    cases seen with
    | step steps =>
      obtain rfl := Showing.eq_of_underWay? goes.symm
      exact aimed_of_steps accounted catalogued (mover ▸ before) (onCourse.aimed _ _ before) steps
    | begin _ _ => cases goes; trivial
    | rest _ _ => cases goes
  · have same : next.showingOf? task = session.showingOf? task := part?_of_other _ moved mover
    exact onCourse.aimed task stage (same.symm.trans showing)

/-- After a move the lines show what was chosen before it, or somebody is about to replace them. -/
theorem current_of_move (onCourse : OnCourse history pageSize session)
    (moved : session.move move = some next) :
    Current history pageSize session.world.store next.world.display.lines ∨
      ∃ task stage, next.showingOf? task = some stage ∧ stage.writes = true := by
  obtain ⟨reply, seen⟩ := showing_of_move moved
  generalize before : session.showingOf? (session.mover move) = was at seen
  generalize after : next.showingOf? (session.mover move) = goes at seen
  have kept (same : next.world.display.lines = session.world.display.lines)
      (mine : ∀ stage, was = some stage → stage.writes = true →
        ∃ stage', goes = some stage' ∧ stage'.writes = true) :
      Current history pageSize session.world.store next.world.display.lines ∨
        ∃ task stage, next.showingOf? task = some stage ∧ stage.writes = true := by
    obtain current | ⟨task, stage, showing, writes⟩ := onCourse.current
    · exact Or.inl (same ▸ current)
    · by_cases mover : task = session.mover move
      · obtain ⟨stage', showing', writes'⟩ :=
          mine stage (before.symm.trans (mover ▸ showing)) writes
        exact Or.inr ⟨_, stage', after.trans showing', writes'⟩
      · exact Or.inr ⟨task, stage, (part?_of_other _ moved mover).trans showing, writes⟩
  cases seen with
  | step steps =>
    obtain ⟨same, goesOn⟩ | put | none := steps.lines
    · refine kept same fun stage here writes => ?_
      obtain rfl := Option.some.inj here
      exact ⟨_, Showing.underWay?_of_writes (goesOn writes), goesOn writes⟩
    · have aimed := onCourse.aimed _ _ before
      rw [put] at aimed
      exact Or.inl aimed
    · exact Or.inl (Or.inl none)
  | begin same _ | rest same _ => exact kept same fun _ none => nomatch none

/-- The tree stays on course while the choice stays as it is. -/
theorem of_move (onCourse : OnCourse history pageSize session)
    (accounted : ∀ id, session.Accounted history id pageSize 0) (catalogued : session.Catalogued)
    (moved : session.move move = some next)
    (selected : next.world.store.selected? = session.world.store.selected?)
    (scope : next.world.store.scope = session.world.store.scope) (later : List Event) :
    OnCourse (history ++ later) pageSize next where
  aimed _ _ showing :=
    (onCourse.aimed_of_move accounted catalogued moved showing).of_choice selected scope later
  current := (onCourse.current_of_move moved).imp_left fun current =>
    current.of_choice selected scope later

end OnCourse

end CommitHistory.Session
