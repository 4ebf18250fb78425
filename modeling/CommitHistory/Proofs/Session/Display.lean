/-
# What steps do to the tree that is shown

Most steps have nothing to do with the tree and leave it as it is. Only those that show lines,
that take turns at the tree, or that carry out refreshes change it. For each of these the rules
say once what a step can do.

## Main definitions

* `Showing.Steps`, `Update.Steps`, `Refresh.Steps`, `MoreLines.Steps` — the rules for the steps
  that change the tree.
* `Marks` — what refreshes leave for each other to see.

## Main results

* `Fetch.display_of_advance`, `LoadMore.display_of_advance`, `Children.display_of_advance`,
  `Removal.display_of_advance`, `Edit.display_apply` — the other steps leave it alone.
* `Refresh.Steps.of_advance`, `MoreLines.Steps.of_advance` — every step follows a rule.
-/

import CommitHistory.Proofs.Session.Move

namespace CommitHistory.Session

variable {task : Nat} {world world' : World} {reply : Option Reply}

/-! ### Steps that leave the tree alone -/

theorem Fetch.display_of_advance {repository : Repository} {stage next : Fetch}
    (advanced : stage.advance task repository world reply = some (world', next)) :
    world'.display = world.display := by
  cases Steps.of_advance advanced <;> rfl

theorem LoadMore.display_of_advance {repository : Repository} {stage next : LoadMore}
    (advanced : stage.advance task repository world reply = some (world', next)) :
    world'.display = world.display := by
  cases stage with
  | guard =>
    cases reply with
    | some _ => cases advanced
    | none =>
      rw [advance] at advanced
      split at advanced
      next => cases advanced; rfl
      next =>
        simp only at advanced
        split at advanced <;> cases advanced <;> rfl
  | fetching fetch =>
    obtain ⟨_, stepped, -⟩ := exists_of_map_eq_some advanced
    exact Fetch.display_of_advance stepped
  | unmark _ => cases reply <;> cases advanced; rfl
  | done _ => cases advanced

theorem Children.display_of_advance {stage next : Children}
    (advanced : stage.advance task world reply = some (world', next)) :
    world'.display = world.display := by
  cases stage with
  | select =>
    cases reply with
    | some _ => cases advanced
    | none =>
      rw [advance] at advanced
      split at advanced <;> cases advanced <;> rfl
  | fetching _ fetch =>
    obtain ⟨_, stepped, -⟩ := exists_of_map_eq_some advanced
    exact Fetch.display_of_advance stepped
  | done _ => cases advanced

theorem Removal.display_of_advance {stage next : Removal}
    (advanced : stage.advance world reply = some (world', next)) :
    world'.display = world.display := by
  unfold Removal.advance at advanced
  split at advanced <;> cases advanced <;> rfl

theorem Edit.display_apply (world : World) (change : Edit) :
    (change.apply world).display = world.display := by
  cases change with
  | setScope scope =>
    rw [Edit.apply]
    split <;> rfl
  | _ => rfl

/-! ### Rules -/

/-- The steps of showing the lines. -/
inductive Showing.Steps (task : Nat) (world : World) :
    Showing → Option Reply → World → Showing → Prop
  | read {children children' : Children} {reply : Option Reply} {world' : World}
      (advanced : children.advance task world reply = some (world', children')) :
      Steps task world (.reading children) reply world' (.ofChildren children')
  | putLines (lines : List TreeLine) :
      Steps task world (.putLines lines) none
        (world.redisplay fun display => { display with lines }) .dropFault
  | dropFault :
      Steps task world .dropFault none
        (world.redisplay fun display => { display with fault := none }) .done
  | dropLines (fault : Fault) :
      Steps task world (.dropLines fault) none
        (world.redisplay fun display => { display with lines := [] }) (.putFault fault)
  | putFault (fault : Fault) :
      Steps task world (.putFault fault) none
        (world.redisplay fun display => { display with fault := some fault }) .done

/-- Every step of showing the lines follows one of the rules. -/
theorem Showing.Steps.of_advance {stage next : Showing}
    (advanced : stage.advance task world reply = some (world', next)) :
    Showing.Steps task world stage reply world' next := by
  cases stage with
  | reading children =>
    obtain ⟨_, stepped, rfl⟩ := exists_of_map_eq_some advanced
    exact .read stepped
  | putLines lines => cases reply <;> cases advanced; exact .putLines lines
  | dropFault => cases reply <;> cases advanced; exact .dropFault
  | dropLines fault => cases reply <;> cases advanced; exact .dropLines fault
  | putFault fault => cases reply <;> cases advanced; exact .putFault fault
  | done => cases advanced

/-- The steps of an update. -/
inductive Update.Steps (task : Nat) (world : World) : Update → Option Reply → World → Update → Prop
  | enter (admitted : (world.enterTurn task).hasTurn task = true) :
      Steps task world .enter none (world.enterTurn task) .begin
  | queue : Steps task world .enter none (world.enterTurn task) .waiting
  | pass (admitted : world.hasTurn task = true) : Steps task world .waiting none world .begin
  | look {next : Update} (on : next = .findCleared ∨ next = .showing .start) :
      Steps task world .begin none
        (world.redisplay fun display => { display with wantsClear := false }) next
  | find {next : Update} (on : (∃ id, next = .clear id) ∨ next = .showing .start) :
      Steps task world .findCleared none world next
  | clear (id : RepositoryId) :
      Steps task world (.clear id) none (world.clear id) (.showing .start)
  | showLines {stage stage' : Showing} {reply : Option Reply} {world' : World}
      (advanced : stage.advance task world reply = some (world', stage')) :
      Steps task world (.showing stage) reply world' (.ofShowing stage')
  | leave : Steps task world .leave none world.leaveTurn .done

/-- Every step of an update follows one of the rules. -/
theorem Update.Steps.of_advance {stage next : Update}
    (advanced : stage.advance task world reply = some (world', next)) :
    Update.Steps task world stage reply world' next := by
  cases stage with
  | enter =>
    cases reply <;> cases advanced
    split
    next admitted => exact .enter admitted
    next => exact .queue
  | waiting =>
    cases reply with
    | some _ => cases advanced
    | none =>
      rw [advance] at advanced
      split at advanced <;> cases advanced
      next admitted => exact .pass admitted
  | begin =>
    cases reply <;> cases advanced
    split
    next => exact .look (Or.inl rfl)
    next => exact .look (Or.inr rfl)
  | findCleared =>
    cases reply with
    | some _ => cases advanced
    | none =>
      rw [advance] at advanced
      split at advanced <;> cases advanced
      next => exact .find (Or.inl ⟨_, rfl⟩)
      next => exact .find (Or.inr rfl)
  | clear id => cases reply <;> cases advanced; exact .clear id
  | showing stage =>
    obtain ⟨_, stepped, rfl⟩ := exists_of_map_eq_some advanced
    exact .showLines stepped
  | leave => cases reply <;> cases advanced; exact .leave
  | done => cases advanced

/-- The steps of a request for a refresh. The first and the last step of an update that others can
see have rules of their own. -/
inductive Refresh.Steps (task : Nat) (world : World) :
    Refresh → Option Reply → World → Refresh → Prop
  | request (clear : Bool) :
      Steps task world (.request clear) none
        (world.redisplay fun display =>
          { display with wantsClear := display.wantsClear || clear }) .trigger
  | trigger :
      Steps task world .trigger none
        (world.redisplay fun display => { display with isPending := true }) (.tryStart 0)
  | turnAway {runs : Nat} (busy : world.display.isRefreshing = true) :
      Steps task world (.tryStart runs) none world (.done runs)
  | start {runs : Nat} (free : world.display.isRefreshing = false) :
      Steps task world (.tryStart runs) none
        (world.redisplay fun display => { display with isRefreshing := true }) (.takePending runs)
  | begin {runs : Nat} (pending : world.display.isPending = true) :
      Steps task world (.takePending runs) none
        (world.redisplay fun display => { display with isPending := false })
        (.updating runs .enter)
  | finish {runs : Nat} (idle : world.display.isPending = false) :
      Steps task world (.takePending runs) none
        (world.redisplay fun display => { display with isPending := false }) (.stop runs)
  | look {runs : Nat} {next : Update} (on : next = .findCleared ∨ next = .showing .start) :
      Steps task world (.updating runs .begin) none
        (world.redisplay fun display => { display with wantsClear := false })
        (.updating runs next)
  | work {runs : Nat} {update update' : Update} {reply : Option Reply} {world' : World}
      (steps : Update.Steps task world update reply world' update') (other : update ≠ .begin)
      (goes : update' ≠ .done) :
      Steps task world (.updating runs update) reply world' (.updating runs update')
  | leave {runs : Nat} :
      Steps task world (.updating runs .leave) none world.leaveTurn (.takePending (runs + 1))
  | stop {runs : Nat} :
      Steps task world (.stop runs) none
        (world.redisplay fun display => { display with isRefreshing := false }) (.lookAgain runs)
  | again {runs : Nat} (pending : world.display.isPending = true) :
      Steps task world (.lookAgain runs) none world (.tryStart runs)
  | rest {runs : Nat} (idle : world.display.isPending = false) :
      Steps task world (.lookAgain runs) none world (.done runs)

theorem Refresh.Steps.of_update {runs : Nat} {update update' : Update}
    (steps : Update.Steps task world update reply world' update') :
    Refresh.Steps task world (.updating runs update) reply world' (.ofUpdate runs update') := by
  cases steps with
  | look on =>
    rcases on with rfl | rfl
    · exact .look (Or.inl rfl)
    · exact .look (Or.inr rfl)
  | leave => exact .leave
  | enter admitted => exact .work (.enter admitted) nofun nofun
  | queue => exact .work .queue nofun nofun
  | pass admitted => exact .work (.pass admitted) nofun nofun
  | find on =>
    rcases on with ⟨id, rfl⟩ | rfl
    · exact .work (.find (Or.inl ⟨id, rfl⟩)) nofun nofun
    · exact .work (.find (Or.inr rfl)) nofun nofun
  | clear id => exact .work (.clear id) nofun nofun
  | @showLines _ stage' _ _ advanced =>
    have steps := Update.Steps.showLines advanced
    cases stage' <;> exact .work steps nofun nofun

/-- Every step of a request for a refresh follows one of the rules. -/
theorem Refresh.Steps.of_advance {stage next : Refresh}
    (advanced : stage.advance task world reply = some (world', next)) :
    Refresh.Steps task world stage reply world' next := by
  cases stage with
  | request clear => cases reply <;> cases advanced; exact .request clear
  | trigger => cases reply <;> cases advanced; exact .trigger
  | tryStart _ =>
    cases reply with
    | some _ => cases advanced
    | none =>
      rw [advance] at advanced
      split at advanced <;> cases advanced
      next busy => exact .turnAway busy
      next free => exact .start (eq_false_of_ne_true free)
  | takePending _ =>
    cases reply <;> cases advanced
    split
    next pending => exact .begin pending
    next idle => exact .finish (eq_false_of_ne_true idle)
  | updating _ update =>
    obtain ⟨_, stepped, rfl⟩ := exists_of_map_eq_some advanced
    exact .of_update (.of_advance stepped)
  | stop _ => cases reply <;> cases advanced; exact .stop
  | lookAgain _ =>
    cases reply <;> cases advanced
    split
    next pending => exact .again pending
    next idle => exact .rest (eq_false_of_ne_true idle)
  | done _ => cases advanced

/-- The steps of a request for more lines. -/
inductive MoreLines.Steps (task : Nat) (world : World) :
    MoreLines → Option Reply → World → MoreLines → Prop
  | select (repository : Repository) : Steps task world .select none world (.claim repository)
  | refuse {stage : MoreLines} (early : stage = .select ∨ ∃ repository, stage = .claim repository) :
      Steps task world stage none world (.done (.ok false))
  | claim (repository : Repository) :
      Steps task world (.claim repository) none
        (world.redisplay fun display => { display with isLoadingMore := true }) (.enter repository)
  | enter {repository : Repository} (admitted : (world.enterTurn task).hasTurn task = true) :
      Steps task world (.enter repository) none (world.enterTurn task)
        (.loading repository .guard)
  | queue (repository : Repository) :
      Steps task world (.enter repository) none (world.enterTurn task) (.waiting repository)
  | pass {repository : Repository} (admitted : world.hasTurn task = true) :
      Steps task world (.waiting repository) none world (.loading repository .guard)
  | load {repository : Repository} {stage stage' : LoadMore} {reply : Option Reply}
      {world' : World}
      (advanced : stage.advance task repository world reply = some (world', stage')) :
      Steps task world (.loading repository stage) reply world' (.ofLoadMore repository stage')
  | showLines {stage stage' : Showing} {reply : Option Reply} {world' : World}
      (advanced : stage.advance task world reply = some (world', stage')) :
      Steps task world (.showing stage) reply world' (.ofShowing stage')
  | leave (result : Except Fault Bool) :
      Steps task world (.leave result) none world.leaveTurn (.release result)
  | release (result : Except Fault Bool) :
      Steps task world (.release result) none
        (world.redisplay fun display => { display with isLoadingMore := false }) (.done result)

/-- Every step of a request for more lines follows one of the rules. -/
theorem MoreLines.Steps.of_advance {stage next : MoreLines}
    (advanced : stage.advance task world reply = some (world', next)) :
    MoreLines.Steps task world stage reply world' next := by
  cases stage with
  | select =>
    cases reply with
    | some _ => cases advanced
    | none =>
      rw [advance] at advanced
      split at advanced <;> cases advanced
      next => exact .refuse (Or.inl rfl)
      next repository _ => exact .select repository
  | claim repository =>
    cases reply with
    | some _ => cases advanced
    | none =>
      rw [advance] at advanced
      split at advanced <;> cases advanced
      next => exact .refuse (Or.inr ⟨repository, rfl⟩)
      next => exact .claim repository
  | enter repository =>
    cases reply <;> cases advanced
    split
    next admitted => exact .enter admitted
    next => exact .queue repository
  | waiting _ =>
    cases reply with
    | some _ => cases advanced
    | none =>
      rw [advance] at advanced
      split at advanced <;> cases advanced
      next admitted => exact .pass admitted
  | loading _ stage =>
    obtain ⟨_, stepped, rfl⟩ := exists_of_map_eq_some advanced
    exact .load stepped
  | showing stage =>
    obtain ⟨_, stepped, rfl⟩ := exists_of_map_eq_some advanced
    exact .showLines stepped
  | leave result => cases reply <;> cases advanced; exact .leave result
  | release result => cases reply <;> cases advanced; exact .release result
  | done _ => cases advanced

/-! ### Marks -/

/-- What refreshes leave for each other to see: someone carries them out, one was asked for and has
not begun, and the next update is to drop the rows. -/
structure Marks where
  isRefreshing : Bool
  isPending : Bool
  wantsClear : Bool

/-- The marks that are set at the tree. -/
def Display.marks (display : Display) : Marks :=
  ⟨display.isRefreshing, display.isPending, display.wantsClear⟩

theorem Showing.Steps.marks {stage next : Showing}
    (steps : Showing.Steps task world stage reply world' next) :
    world'.display.marks = world.display.marks := by
  cases steps with
  | read advanced => exact congrArg Display.marks (Children.display_of_advance advanced)
  | _ => rfl

/-- Of all steps of an update only the first in its turn changes a mark. -/
theorem Update.Steps.marks {stage next : Update}
    (steps : Update.Steps task world stage reply world' next) (other : stage ≠ .begin) :
    world'.display.marks = world.display.marks := by
  cases steps with
  | look _ => exact absurd rfl other
  | showLines advanced => exact (Showing.Steps.of_advance advanced).marks
  | _ => rfl

theorem MoreLines.Steps.marks {stage next : MoreLines}
    (steps : MoreLines.Steps task world stage reply world' next) :
    world'.display.marks = world.display.marks := by
  cases steps with
  | load advanced => exact congrArg Display.marks (LoadMore.display_of_advance advanced)
  | showLines advanced => exact (Showing.Steps.of_advance advanced).marks
  | _ => rfl

end CommitHistory.Session
