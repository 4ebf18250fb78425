/-
# Guards that are let go

Two marks turn requests for more away: one of the rows of a repository, and one of the tree.
Either is put up by a request, and the request takes it down before it is over, whatever comes
between. The mark of the rows may be gone by then, with the rows; but rows that come anew have
none, so it never outlasts the request that has put it up. The mark of the tree is there exactly
as long as one request for more lines holds it.

## Main definitions

* `Session.ClosedBy` — the request of a task has put up the guard that is up.
* `MoreLines.isHolding`, `Session.Holding` — a request for more lines holds the mark of the tree.
* `Session.Marked` — the mark of the tree tells whether a request holds it.
* `Session.Loading` — a request for more, or for more lines, is under way.

## Main results

* `Session.exists_closedBy_of_play` — a guard that is up belongs to an outstanding request.
* `Session.Marked.of_play` — in every run the mark of the tree is kept right.
* `Session.guards_let_go` — without requests no mark is there, and the next request passes.
-/

import CommitHistory.Proofs.Session.Outstanding
import CommitHistory.Proofs.Session.Refresh

namespace CommitHistory.Session

variable {session next first : Session} {move : Move} {moves : List Move} {id : RepositoryId}
  {task : Nat} {pageSize : Nat} {scope : Scope}

/-! ### The guard of a repository -/

/-- The request of a task has found the guard of a repository open and has closed it, and the guard
has been closed since. -/
def ClosedBy (id : RepositoryId) (first : Session) (moves : List Move) (task : Nat) : Prop :=
  ∃ before move after start next, moves = before ++ move :: after ∧
    first.play before = some start ∧ start.move move = some next ∧ start.mover move = task ∧
    start.world.store.guard? id = some false ∧ next.world.store.guard? id = some true ∧
    next.Throughout (fun session _ => session.world.store.guard? id = some true) after

/-- A guard that is closed after a move was closed before it, and whoever was outstanding still is;
or the move has closed it, and now its request is outstanding. -/
theorem closed_of_move (moved : session.move move = some next)
    (closed : next.world.store.guard? id = some true) :
    (session.world.store.guard? id = some true ∧
        ∀ task, session.Outstanding id task → next.Outstanding id task) ∨
      session.world.store.guard? id = some false ∧ next.Outstanding id (session.mover move) := by
  -- Only passing closes a guard; letting it go and new rows leave it open.
  cases GuardShift.of_move id moved with
  | pass isOpen _ _ passed => exact Or.inr ⟨isOpen, passed⟩
  | release _ _ _ _ opened => exact absurd closed opened
  | renew _ isOpen _ _ => cases isOpen.symm.trans closed
  | stay guard same =>
    obtain stayed | dropped := guard
    · exact Or.inl ⟨stayed.symm.trans closed, fun task => (same task).mpr⟩
    · cases dropped.symm.trans closed

/-- In every run a guard that is closed was closed by a request that is still outstanding. -/
theorem exists_closedBy_of_play (played : (new pageSize scope).play moves = some session)
    (closed : session.world.store.guard? id = some true) :
    ∃ task, ClosedBy id (new pageSize scope) moves task ∧ session.Outstanding id task := by
  refine play_induction (fun moves session => session.world.store.guard? id = some true →
    ∃ task, ClosedBy id (new pageSize scope) moves task ∧ session.Outstanding id task)
    (fun closed => ?_) ?_ played closed
  · cases (show (none : Option Bool) = some true from closed)
  intro moves middle move next before ih moved closed
  obtain ⟨earlier, stays⟩ | ⟨isOpen, passed⟩ := closed_of_move moved closed
  · obtain ⟨task, ⟨start, closing, after, first, second, rfl, reached, shut, mover, was, is,
      since⟩, passed⟩ := ih earlier
    refine ⟨task, ⟨start, closing, after ++ [move], first, second, ?_, reached, shut, mover, was,
      is, ?_⟩, stays task passed⟩
    · rw [List.append_assoc, List.cons_append]
    · -- What was closed in the session before the move is closed in all sessions so far.
      rw [play_append_of_play reached] at before
      obtain ⟨_, shut', before⟩ := Option.bind_eq_some_iff.mp before
      obtain rfl := Option.some.inj (shut.symm.trans shut')
      exact (throughout_concat before).mpr ⟨since, earlier⟩
  · exact ⟨_, ⟨moves, move, [], middle, next, rfl, before, moved, rfl, isOpen, closed, trivial⟩,
      passed⟩

/-- A request that has passed the guard is not turned away any more. -/
theorem LoadMore.ne_refused {stage : LoadMore} {repository : Repository} {world world' : World}
    {reply : Option Reply} {result : Except Fault Bool} (passed : stage.isOutstanding = true)
    (advanced : stage.advance task repository world reply = some (world', .done result)) :
    result ≠ .ok false := by
  cases stage with
  | guard | done _ => cases passed
  | fetching fetch =>
    obtain ⟨fetch', -, same⟩ := exists_of_map_eq_some advanced
    cases fetch' <;> cases same
  | unmark outcome =>
    cases reply with
    | some _ => cases advanced
    | none =>
      obtain ⟨-, ended⟩ := Prod.mk.inj (Option.some.inj advanced)
      cases ended
      cases outcome <;> exact nofun

/-! ### The mark of the tree -/

/-- A request for more lines holds the mark of the tree. -/
def MoreLines.isHolding : MoreLines → Bool
  | .select | .claim _ | .done _ => false
  | .enter _ | .waiting _ | .loading _ _ | .showing _ | .leave _ | .release _ => true

/-- An activity is a request for more lines that holds the mark of the tree. -/
def Activity.isHolding (activity : Activity) : Bool :=
  activity.moreLines?.any MoreLines.isHolding

/-- The request for more lines of a task holds the mark of the tree. -/
def Holding (session : Session) (task : Nat) : Prop :=
  ∃ activity, session.activities[task]? = some activity ∧ activity.isHolding = true

/-- A step, seen from the mark of the tree. Before and after it, its own request holds the mark or
does not. -/
inductive MarkShift (mark mark' : Bool) : Bool → Bool → Prop
  | keep (same : mark' = mark) {holding : Bool} : MarkShift mark mark' holding holding
  | take (free : mark = false) (taken : mark' = true) : MarkShift mark mark' false true
  | release (freed : mark' = false) : MarkShift mark mark' true false

section

variable {world world' : World} {reply : Option Reply}

theorem Showing.Steps.isLoadingMore {stage stage' : Showing}
    (steps : Showing.Steps task world stage reply world' stage') :
    world'.display.isLoadingMore = world.display.isLoadingMore := by
  cases steps with
  | read advanced => exact congrArg Display.isLoadingMore (Children.display_of_advance advanced)
  | _ => rfl

theorem Update.Steps.isLoadingMore {stage stage' : Update}
    (steps : Update.Steps task world stage reply world' stage') :
    world'.display.isLoadingMore = world.display.isLoadingMore := by
  cases steps with
  | showLines advanced => exact (Showing.Steps.of_advance advanced).isLoadingMore
  | _ => rfl

theorem Refresh.Steps.isLoadingMore {stage stage' : Refresh}
    (steps : Refresh.Steps task world stage reply world' stage') :
    world'.display.isLoadingMore = world.display.isLoadingMore := by
  cases steps with
  | work steps => exact steps.isLoadingMore
  | _ => rfl

theorem MoreLines.advance_claim_of_free {repository : Repository}
    (free : world.display.isLoadingMore = false) :
    (claim repository).advance task world none =
      some (world.redisplay fun display => { display with isLoadingMore := true },
        .enter repository) := by
  rw [advance]
  exact if_neg (by simp [free])

theorem MoreLines.isHolding_ofLoadMore (repository : Repository) (stage : LoadMore) :
    (ofLoadMore repository stage).isHolding = true := by
  unfold ofLoadMore
  split <;> rfl

theorem MoreLines.isHolding_ofShowing (stage : Showing) : (ofShowing stage).isHolding = true := by
  cases stage <;> rfl

/-- What a request for more lines does to the mark. -/
theorem MoreLines.markShift_of_advance {stage stage' : MoreLines}
    (advanced : stage.advance task world reply = some (world', stage')) :
    MarkShift world.display.isLoadingMore world'.display.isLoadingMore stage.isHolding
      stage'.isHolding := by
  cases Steps.of_advance advanced with
  | select _ => exact .keep rfl
  | refuse early => obtain rfl | ⟨repository, rfl⟩ := early <;> exact .keep rfl
  | claim repository =>
    -- The mark is taken only by a request that finds it free.
    refine .take ?_ rfl
    by_contra busy
    rw [advance, if_pos (by simpa using busy)] at advanced
    obtain ⟨-, turnedAway⟩ := Prod.mk.inj (Option.some.inj advanced)
    cases turnedAway
  | enter _ | queue _ | pass _ | leave _ => exact .keep rfl
  | load stepped =>
    rw [isHolding_ofLoadMore]
    exact .keep (congrArg Display.isLoadingMore (LoadMore.display_of_advance stepped))
  | showLines stepped =>
    rw [isHolding_ofShowing]
    exact .keep (Showing.Steps.of_advance stepped).isLoadingMore
  | release _ => exact .release rfl

theorem Activity.markShift_of_advance {activity after : Activity}
    (advanced : activity.advance task world reply = some (world', after)) :
    MarkShift world.display.isLoadingMore world'.display.isLoadingMore activity.isHolding
      after.isHolding := by
  unfold isHolding
  cases Scene.of_advance advanced with
  | refresh _ steps _ apart apart' =>
    rw [apart, apart']
    exact .keep steps.isLoadingMore
  | begin _ _ _ same apart apart' =>
    rw [apart, apart', same]
    exact .keep rfl
  | rest _ _ display apart apart' =>
    rw [apart, apart']
    exact .keep (congrArg Display.isLoadingMore display)
  | moreLines under _ goes =>
    subst under goes
    obtain ⟨_, stepped, same⟩ := exists_of_map_eq_some advanced
    cases same
    exact MoreLines.markShift_of_advance stepped

end

theorem Activity.isHolding_begin (call : Call) : call.begin.isHolding = false := by
  cases call with
  | refresh clear => cases clear <;> rfl
  | _ => rfl

theorem holding_of_other (moved : session.move move = some next) {task : Nat}
    (other : task ≠ session.mover move) : next.Holding task ↔ session.Holding task := by
  rw [Holding, activities_of_other moved other, ← Holding]

/-- What a move does to the mark of the tree. -/
theorem exists_markShift_of_move (moved : session.move move = some next) :
    ∃ holding holding', MarkShift session.world.display.isLoadingMore
        next.world.display.isLoadingMore holding holding' ∧
      (session.Holding (session.mover move) ↔ holding = true) ∧
      (next.Holding (session.mover move) ↔ holding' = true) := by
  have holding_iff {session : Session} {task : Nat} {activity : Activity}
      (held : session.activities[task]? = some activity) :
      session.Holding task ↔ activity.isHolding = true := by
    simp [Holding, held]
  obtain ⟨call, same, absent, begun⟩ | ⟨reply, before, after, held, held', stepped⟩ :=
    activities_of_move moved
  · refine ⟨false, false, .keep (by rw [same]), ?_, ?_⟩
    · simp [Holding, absent]
    · rw [holding_iff begun, Activity.isHolding_begin]
  · exact ⟨_, _, Activity.markShift_of_advance stepped, holding_iff held, holding_iff held'⟩

/-- The mark of the tree is there if a request for more lines holds it, and one at most does. -/
structure Marked (session : Session) : Prop where
  mark : session.world.display.isLoadingMore = true ↔ ∃ task, session.Holding task
  single : ∀ first second, session.Holding first → session.Holding second → first = second

namespace Marked

/-- A mark that is free is held by nobody. -/
theorem of_free (free : session.world.display.isLoadingMore = false)
    (nobody : ∀ task, ¬ session.Holding task) : session.Marked := by
  refine ⟨?_, fun first _ one _ => absurd one (nobody first)⟩
  rw [free]
  constructor
  · intro taken
    cases taken
  · rintro ⟨task, held⟩
    exact absurd held (nobody task)

theorem new (pageSize : Nat) (scope : Scope) : (new pageSize scope).Marked := by
  refine of_free rfl ?_
  rintro task ⟨_, held, -⟩
  simp [Session.new] at held

theorem of_move (marked : session.Marked) (moved : session.move move = some next) :
    next.Marked := by
  have elsewhere {task : Nat} (other : task ≠ session.mover move) := holding_of_other moved other
  obtain ⟨holding, holding', shift, was, is⟩ := exists_markShift_of_move moved
  cases shift with
  | keep same =>
    -- The mover holds the mark if it did before, and nobody else has moved.
    have everywhere (task : Nat) : next.Holding task ↔ session.Holding task := by
      by_cases mover : task = session.mover move
      · rw [mover, is, was]
      · exact elsewhere mover
    refine ⟨?_, ?_⟩
    · simp only [same, marked.mark, everywhere]
    · simpa only [everywhere] using marked.single
  | take free taken =>
    -- Nobody held the mark, so whoever has taken it is alone.
    have nobody (task : Nat) : ¬ session.Holding task := by
      intro held
      rw [marked.mark.mpr ⟨task, held⟩] at free
      cases free
    have only (task : Nat) (held : next.Holding task) : task = session.mover move := by
      by_contra other
      exact nobody task ((elsewhere other).mp held)
    refine ⟨iff_of_true taken ⟨_, is.mpr rfl⟩, ?_⟩
    intro first second one two
    rw [only first one, only second two]
  | release freed =>
    -- Whoever lets the mark go was the only one who held it.
    refine of_free freed ?_
    intro task held
    by_cases mover : task = session.mover move
    · cases is.mp (mover ▸ held)
    · exact mover (marked.single task _ ((elsewhere mover).mp held) (was.mpr rfl))

theorem of_play (played : (Session.new pageSize scope).play moves = some session) :
    session.Marked :=
  play_induction (fun _ session => session.Marked) (new pageSize scope)
    (fun _ _ _ _ _ marked moved => marked.of_move moved) played

end Marked

/-! ### Requests of either kind -/

/-- An activity is a request for more, or for more lines, and is not over. -/
def Activity.isLoading : Activity → Bool
  | .loadMore _ (.done _) | .moreLines (.done _) => false
  | .loadMore _ _ | .moreLines _ => true
  | _ => false

/-- A request for more, or for more lines, is under way in a task. -/
def Loading (session : Session) (task : Nat) : Prop :=
  ∃ activity, session.activities[task]? = some activity ∧ activity.isLoading = true

theorem Outstanding.loading (passed : session.Outstanding id task) : session.Loading task := by
  obtain ⟨repository, stage, under, -, -⟩ := passed
  obtain ⟨activity, held, under⟩ := Option.bind_eq_some_iff.mp under
  refine ⟨activity, held, ?_⟩
  cases activity with
  | loadMore _ stage => cases stage <;> first | rfl | cases under
  | moreLines stage => cases stage <;> first | rfl | cases under
  | _ => cases under

theorem Holding.loading (holding : session.Holding task) : session.Loading task := by
  obtain ⟨activity, held, holds⟩ := holding
  refine ⟨activity, held, ?_⟩
  cases activity with
  | moreLines stage => cases stage <;> first | rfl | cases holds
  | _ => cases holds

/-- A request that comes to an open guard passes it. -/
theorem exists_outstanding_of_open {repository : Repository}
    (under : session.requestOf? task = some (repository, .guard))
    (isOpen : session.world.store.guard? repository.id = some false) :
    ∃ next, session.move (.advance task none) = some next ∧
      next.Outstanding repository.id task := by
  obtain ⟨activity, held, found⟩ := Option.bind_eq_some_iff.mp under
  obtain ⟨inside, -⟩ := List.getElem?_eq_some_iff.mp held
  let world : World :=
    { session.world with store := (Deed.mark repository.id).store session.world.store }
  -- Either kind of request goes on as soon as its own step says so.
  have goesOn (after : Activity)
      (stepped : activity.advance task session.world none = some (world, after))
      (fetching : after.request? = some (repository, .fetching .lookup)) :
      ∃ next, session.move (.advance task none) = some next ∧
        next.Outstanding repository.id task := by
    refine ⟨_, move_of_activity held stepped, repository, .fetching .lookup, ?_, rfl, rfl⟩
    rw [requestOf?, part?_of_held (List.getElem?_set_self inside), fetching]
  cases activity with
  | loadMore other _ =>
    obtain ⟨rfl, rfl⟩ := LoadMore.eq_of_underWay? found
    refine goesOn (.loadMore other (.fetching .lookup)) ?_ rfl
    rw [Activity.advance, LoadMore.advance_guard_of_open isOpen]
    rfl
  | moreLines stage =>
    cases stage with
    | loading other _ =>
      obtain ⟨rfl, rfl⟩ := LoadMore.eq_of_underWay? found
      refine goesOn (.moreLines (.loading other (.fetching .lookup))) ?_ rfl
      rw [Activity.advance, MoreLines.advance, LoadMore.advance_guard_of_open isOpen]
      rfl
    | _ => cases found
  | _ => cases found

/-- A request for more lines that finds the mark of the tree free takes it. -/
theorem exists_holding_of_free {repository : Repository}
    (held : session.activities[task]? = some (.moreLines (.claim repository)))
    (free : session.world.display.isLoadingMore = false) :
    ∃ next, session.move (.advance task none) = some next ∧ next.Holding task := by
  obtain ⟨inside, -⟩ := List.getElem?_eq_some_iff.mp held
  have stepped : (Activity.moreLines (.claim repository)).advance task session.world none =
      some (session.world.redisplay fun display => { display with isLoadingMore := true },
        .moreLines (.enter repository)) := by
    rw [Activity.advance, MoreLines.advance_claim_of_free free]
    rfl
  exact ⟨_, move_of_activity held stepped, _, List.getElem?_set_self inside, rfl⟩

/-- In every run a guard that is up was put up by a request that is still outstanding, and the mark
of the tree is there exactly if one request for more lines holds it. So without requests there are
no marks, and a request that meets no other one passes both, and is not turned away later. -/
theorem guards_let_go (played : (new pageSize scope).play moves = some session) :
    (∀ id, session.world.store.guard? id = some true →
      ∃ task, ClosedBy id (new pageSize scope) moves task ∧ session.Outstanding id task) ∧
    (session.world.display.isLoadingMore = true ↔ ∃! task, session.Holding task) ∧
    ((∀ task, ¬ session.Loading task) →
      session.world.display.isLoadingMore = false ∧
        ∀ id, session.world.store.guard? id ≠ some true) ∧
    (∀ task, (∀ other, session.Loading other → other = task) →
      (∀ repository, session.requestOf? task = some (repository, .guard) →
        session.world.store.cached.get? repository.id ≠ none →
        ∃ next, session.move (.advance task none) = some next ∧
          next.Outstanding repository.id task) ∧
      ∀ repository, session.activities[task]? = some (.moreLines (.claim repository)) →
        ∃ next, session.move (.advance task none) = some next ∧ next.Holding task) ∧
    ∀ task repository stage reply world result,
      session.requestOf? task = some (repository, stage) → stage.isOutstanding = true →
      stage.advance task repository session.world reply = some (world, .done result) →
      result ≠ .ok false := by
  have closedBy (id : RepositoryId) (closed : session.world.store.guard? id = some true) :=
    exists_closedBy_of_play played closed
  have marked := Marked.of_play played
  refine ⟨closedBy, ?_, ?_, ?_, ?_⟩
  · rw [marked.mark]
    constructor
    · rintro ⟨task, holding⟩
      exact ⟨task, holding, fun other held => marked.single other task held holding⟩
    · rintro ⟨task, holding, -⟩
      exact ⟨task, holding⟩
  · intro idle
    refine ⟨?_, fun id closed => ?_⟩
    · rw [← Bool.not_eq_true, marked.mark]
      rintro ⟨task, holding⟩
      exact idle task holding.loading
    · obtain ⟨task, -, passed⟩ := closedBy id closed
      exact idle task passed.loading
  · intro task alone
    refine ⟨fun repository under there => ?_, fun repository held => ?_⟩
    · obtain ⟨cached, rows⟩ := Option.ne_none_iff_exists'.mp there
      have guard : session.world.store.guard? repository.id = some cached.loadingMore := by
        rw [Store.guard?, rows, Option.map_some]
      cases mark : cached.loadingMore with
      | false => exact exists_outstanding_of_open under (guard.trans (congrArg some mark))
      | true =>
        -- Whoever has closed the guard is still outstanding, and this request is not.
        obtain ⟨other, -, passed⟩ := closedBy repository.id (guard.trans (congrArg some mark))
        obtain rfl := alone other passed.loading
        cases ((outstanding_iff under).mp passed).2
    · refine exists_holding_of_free held ?_
      rw [← Bool.not_eq_true, marked.mark]
      rintro ⟨other, holding⟩
      obtain rfl := alone other holding.loading
      obtain ⟨activity, held', holds⟩ := holding
      cases held.symm.trans held'
      cases holds
  · intro task repository stage reply world result _ passed advanced
    exact LoadMore.ne_refused passed advanced

/-- The repository that is selected has rows, and more lines are asked for. -/
def claimingRun : List Move :=
  sampleRun ++ [.start (.edit (.add sampleRepository)), .advance 1 none,
    .start (.edit (.activate (some sampleRepository.id))), .advance 2 none,
    .start .moreLines, .advance 3 none]

theorem guards_let_go_claimingRun :
    (new 1 .lineage).play claimingRun = some (sampleAfter claimingRun) ∧
      (∃ next, (sampleAfter claimingRun).move (.advance 3 none) = some next ∧ next.Holding 3) ∧
      ∃ session, (new 1 .lineage).play (claimingRun ++ List.replicate 2 (.advance 3 none)) =
          some session ∧ session.world.display.isLoadingMore = true ∧
        (∃! task, session.Holding task) ∧
        ∃ next, session.move (.advance 3 none) = some next ∧ next.Outstanding ⟨"r"⟩ 3 := by
  have first : (new 1 .lineage).play claimingRun = some (sampleAfter claimingRun) := rfl
  have second : (new 1 .lineage).play (claimingRun ++ List.replicate 2 (.advance 3 none)) =
      some (sampleAfter (claimingRun ++ List.replicate 2 (.advance 3 none))) := rfl
  -- In both sessions all calls but the last one are over.
  have alone {session : Session} {rows : List Row} {stage : MoreLines}
      (activities : session.activities = [.fetch sampleRepository (.done (.ok rows)), .edited,
        .edited, .moreLines stage]) (other : Nat) (loading : session.Loading other) :
      other = 3 := by
    obtain ⟨activity, held, loading⟩ := loading
    rw [activities] at held
    match other with
    | 0 | 1 | 2 => cases held; cases loading
    | 3 => rfl
    | _ + 4 => cases held
  have marked : (sampleAfter (claimingRun ++
      List.replicate 2 (.advance 3 none))).world.display.isLoadingMore = true := rfl
  obtain ⟨-, -, -, passing, -⟩ := guards_let_go first
  obtain ⟨-, holding, -, passing', -⟩ := guards_let_go second
  refine ⟨first, ?_, _, second, marked, holding.mp marked, ?_⟩
  · exact (passing 3 (alone rfl)).2 sampleRepository rfl
  · exact (passing' 3 (alone rfl)).1 sampleRepository rfl (by decide)

end CommitHistory.Session
