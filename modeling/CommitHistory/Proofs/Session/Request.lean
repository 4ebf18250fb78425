/-
# Requests for more and the marks of rows

A request for more is made by a call, or by whoever asks for more lines. It marks the rows
of its repository, fetches a page and takes the mark away. Whatever the activity, a step of
its request is a step of `LoadMore.advance`, and outside requests nobody says that a page is
being appended.

## Main definitions

* `Deed.remark` — what a deed does to the marks of rows.
* `Activity.request?` — the request for more that is under way in an activity.

## Main results

* `Deed.get?_cached_store` — a deed drops rows, or changes their marks and nothing else.
* `Activity.advance_request` — a step of an activity is a step of its request, if it has one.
* `Session.RequestShift.of_move` — the same for the moves of a session.
-/

import CommitHistory.Proofs.Session.Move

namespace CommitHistory.Session

/-! ### Marks -/

namespace Store

variable (store : Store) (id other : RepositoryId)

@[simp] theorem get?_cached_invalidate :
    (store.invalidate id).cached.get? other =
      if other = id then none else store.cached.get? other :=
  Table.get?_erase ..

theorem get?_cached_foldl_invalidate (ids : List RepositoryId) :
    (ids.foldl invalidate store).cached.get? other =
      if other ∈ ids then none else store.cached.get? other := by
  induction ids generalizing store with
  | nil => simp
  | cons first rest ih =>
    rw [List.foldl_cons, ih, get?_cached_invalidate]
    by_cases same : other = first <;> by_cases later : other ∈ rest <;> simp [same, later]

@[simp] theorem get?_cached_alter (change : Cached → Cached) :
    (store.alter id change).cached.get? other =
      if other = id then (store.cached.get? other).map change else store.cached.get? other := by
  cases held : store.cached.get? id with
  | none =>
    have same : store.alter id change = store := by rw [alter, held]
    rw [same]
    split
    next here => rw [here, held]; rfl
    next => rfl
  | some cached =>
    rw [alter_of_get? held, Table.get?_put]
    split
    next here => rw [here, held]; rfl
    next => rfl

end Store

namespace Deed

/-- What a deed does to the marks of the rows of a repository. -/
def remark (id : RepositoryId) : Deed → Cached → Cached
  | .edit (.setWantsMore other wantsMore), cached =>
    if other = id then { cached with wantsMore } else cached
  | .mark other, cached =>
    if other = id then { cached with wantsMore := true, loadingMore := true } else cached
  | .unmark other, cached => if other = id then { cached with loadingMore := false } else cached
  | _, cached => cached

/-- A deed drops the rows of a repository, or changes their marks and nothing else. -/
theorem get?_cached_store (deed : Deed) (before : Session.Store) (id : RepositoryId) :
    (deed.store before).cached.get? id =
      if id ∈ deed.drops before then none else (before.cached.get? id).map (deed.remark id) := by
  have altered {other : RepositoryId} {change : Cached → Cached} :
      (before.alter other change).cached.get? id =
        (before.cached.get? id).map fun cached => if other = id then change cached else cached := by
    rw [Store.get?_cached_alter]
    by_cases same : id = other
    · simp [same]
    · simp [same, Ne.symm same]
  have dropped {other : RepositoryId} :
      (before.cached.erase other).get? id =
        if id ∈ [other] then none else (before.cached.get? id).map fun cached => cached := by
    simp
  have same : (before.cached.get? id).map (fun cached => cached) = before.cached.get? id :=
    Option.map_id'
  cases deed with
  | rest | forget _ => exact same.symm
  | mark _ | unmark _ => exact altered
  | remove _ => exact dropped
  | edit change =>
    cases change with
    | add _ | choose _ | activate _ => exact same.symm
    | setWantsMore _ _ => exact altered
    | clear _ => exact dropped
    | setScope scope =>
      simp only [store, drops]
      split
      next => exact same.symm
      next =>
        rw [Session.Store.setScope, Store.get?_cached_foldl_invalidate]
        split
        next => rfl
        next => exact same.symm

/-- Whether a deed says that a page is being appended, or that it is not any more. -/
def isMark : Deed → Bool
  | .mark _ | .unmark _ => true
  | _ => false

theorem loadingMore_remark {deed : Deed} (unmarked : deed.isMark = false) (id : RepositoryId)
    (cached : Cached) : (deed.remark id cached).loadingMore = cached.loadingMore := by
  cases deed with
  | mark _ | unmark _ => cases unmarked
  | edit change =>
    cases change with
    | setWantsMore other _ =>
      rw [remark]
      split <;> rfl
    | _ => rfl
  | _ => rfl

end Deed

/-! ### The request under way -/

/-- A request for more of a repository, unless it is over. -/
def LoadMore.underWay? (repository : Repository) : LoadMore → Option (Repository × LoadMore)
  | .done _ => none
  | stage => some (repository, stage)

/-- The request under way when more lines are asked for. -/
def MoreLines.request? : MoreLines → Option (Repository × LoadMore)
  | .loading repository stage => stage.underWay? repository
  | _ => none

/-- The request for more that is under way in an activity, with its repository. -/
def Activity.request? : Activity → Option (Repository × LoadMore)
  | .loadMore repository stage => stage.underWay? repository
  | .moreLines stage => stage.request?
  | _ => none

theorem LoadMore.eq_of_underWay? {stage stage' : LoadMore} {repository other : Repository}
    (under : stage.underWay? other = some (repository, stage')) :
    other = repository ∧ stage = stage' := by
  cases stage <;> cases under <;> exact ⟨rfl, rfl⟩

@[simp] theorem MoreLines.request?_ofLoadMore (repository : Repository) (stage : LoadMore) :
    (MoreLines.ofLoadMore repository stage).request? = stage.underWay? repository := by
  unfold MoreLines.ofLoadMore
  split
  next => rfl
  next => rfl
  next => rfl

@[simp] theorem MoreLines.request?_ofShowing (stage : Showing) :
    (MoreLines.ofShowing stage).request? = none := by
  cases stage <;> rfl

theorem Refresh.isMark_deed (stage : Refresh) : stage.deed.isMark = false := by
  cases stage with
  | updating _ update => cases update <;> rfl
  | _ => rfl

theorem Handling.isMark_deed (stage : Handling) : stage.deed.isMark = false := by
  cases stage with
  | refreshing refresh => exact refresh.isMark_deed
  | _ => rfl

theorem Follow.isMark_deed (stage : Follow) : stage.deed.isMark = false := by
  cases stage with
  | handling _ stage => exact stage.isMark_deed
  | refreshing _ stage => exact stage.isMark_deed
  | _ => rfl

/-- Nobody but a request for more says that a page is being appended. -/
theorem Activity.isMark_deed {activity : Activity} (none : activity.request? = none)
    (world : World) : (activity.deed world).isMark = false := by
  cases activity with
  | loadMore repository stage =>
    cases stage with
    | done _ => rfl
    | _ => cases none
  | moreLines stage =>
    cases stage with
    | loading repository stage =>
      cases stage with
      | done _ => rfl
      | _ => cases none
    | _ => rfl
  | remove stage => cases stage <;> rfl
  | refresh stage => exact stage.isMark_deed
  | handle stage => exact stage.isMark_deed
  | follow stage => exact stage.isMark_deed
  | _ => rfl

/-- What an activity does outside its fetch is what its request for more does. -/
theorem Activity.deed_of_request? {activity : Activity} {repository : Repository} {stage : LoadMore}
    (under : activity.request? = some (repository, stage)) (world : World) :
    activity.deed world = stage.deed repository world := by
  cases activity with
  | loadMore other inner =>
    obtain ⟨rfl, rfl⟩ := LoadMore.eq_of_underWay? under
    rfl
  | moreLines outer =>
    cases outer with
    | loading other inner =>
      obtain ⟨rfl, rfl⟩ := LoadMore.eq_of_underWay? under
      rfl
    | _ => cases under
  | _ => cases under

/-- The fetch under way in an activity is the one of its request for more. -/
theorem Activity.fetch?_of_request? {activity : Activity} {repository : Repository}
    {stage : LoadMore} (under : activity.request? = some (repository, stage)) :
    activity.fetch? = stage.fetch? repository := by
  cases activity with
  | loadMore other inner =>
    obtain ⟨rfl, rfl⟩ := LoadMore.eq_of_underWay? under
    rfl
  | moreLines outer =>
    cases outer with
    | loading other inner =>
      obtain ⟨rfl, rfl⟩ := LoadMore.eq_of_underWay? under
      rfl
    | _ => cases under
  | _ => cases under

/-- A step seen from the request for more. Before it the request `before` is under way, after it
`after`. -/
inductive Sought (task : Nat) (world : World) (reply : Option Reply) (world' : World) :
    Option (Repository × LoadMore) → Option (Repository × LoadMore) → Prop
  | request {repository : Repository} {stage stage' : LoadMore}
      (advanced : stage.advance task repository world reply = some (world', stage')) :
      Sought task world reply world' (some (repository, stage)) (stage'.underWay? repository)
  | other {after : Option (Repository × LoadMore)}
      (begun : ∀ repository stage, after = some (repository, stage) → stage = .guard) :
      Sought task world reply world' none after

section

variable {task : Nat} {world world' : World} {reply : Option Reply}

theorem LoadMore.advance_sought {repository : Repository} {stage next : LoadMore}
    (advanced : stage.advance task repository world reply = some (world', next)) :
    Sought task world reply world' (stage.underWay? repository) (next.underWay? repository) := by
  cases stage with
  | done result => cases advanced
  | _ => exact .request advanced

theorem Sought.idle : Sought task world reply world' none none :=
  .other fun _ _ found => nomatch found

theorem MoreLines.advance_sought {stage next : MoreLines}
    (advanced : stage.advance task world reply = some (world', next)) :
    Sought task world reply world' stage.request? next.request? := by
  have begun (repository : Repository) :
      Sought task world reply world' none (some (repository, .guard)) :=
    .other fun _ _ found => by cases found; rfl
  cases stage with
  | select | claim _ =>
    cases reply with
    | some _ => cases advanced
    | none =>
      rw [advance] at advanced
      split at advanced <;> cases advanced <;> exact .idle
  | enter repository =>
    cases reply <;> cases advanced
    split
    next => exact begun repository
    next => exact .idle
  | waiting repository =>
    cases reply with
    | some _ => cases advanced
    | none =>
      rw [advance] at advanced
      split at advanced <;> cases advanced
      exact begun repository
  | loading repository stage =>
    obtain ⟨stage', stepped, rfl⟩ := exists_of_map_eq_some advanced
    rw [request?_ofLoadMore]
    exact LoadMore.advance_sought stepped
  | showing stage =>
    obtain ⟨stage', stepped, rfl⟩ := exists_of_map_eq_some advanced
    rw [request?_ofShowing]
    exact .idle
  | leave _ | release _ =>
    cases reply <;> cases advanced
    exact .idle
  | done result => cases advanced

/-- A step of an activity is a step of its request for more, if one is under way. -/
theorem Activity.advance_request {activity next : Activity}
    (advanced : activity.advance task world reply = some (world', next)) :
    Sought task world reply world' activity.request? next.request? := by
  cases activity with
  | loadMore repository stage =>
    obtain ⟨stage', stepped, rfl⟩ := exists_of_map_eq_some advanced
    exact LoadMore.advance_sought stepped
  | moreLines stage =>
    obtain ⟨stage', stepped, rfl⟩ := exists_of_map_eq_some advanced
    exact MoreLines.advance_sought stepped
  | fetch _ _ | ancestor _ _ | remove _ | children _ | refresh _ | handle _ | follow _
  | openLine _ =>
    obtain ⟨_, -, rfl⟩ := exists_of_map_eq_some advanced
    exact .idle
  | edit _ | ask _ =>
    cases reply <;> cases advanced
    exact .idle
  | edited | told _ => cases advanced

end

/-! ### Moves of a session -/

/-- The request for more that is under way in the activity of a task. -/
def requestOf? (session : Session) (task : Nat) : Option (Repository × LoadMore) :=
  session.part? Activity.request? task

/-- What a move does, seen from the requests for more. -/
inductive RequestShift (session : Session) (move : Move) (next : Session) : Prop
  | request {task : Nat} {reply : Option Reply} {repository : Repository}
      {stage stage' : LoadMore} (mover : move = .advance task reply)
      (under : session.requestOf? task = some (repository, stage))
      (advanced : stage.advance task repository session.world reply = some (next.world, stage'))
      (mine : next.requestOf? task = stage'.underWay? repository)
      (others : ∀ other, other ≠ task → next.requestOf? other = session.requestOf? other)
  | other (requests : ∀ task, next.requestOf? task = session.requestOf? task ∨
        session.requestOf? task = none ∧
          ∃ repository, next.requestOf? task = some (repository, .guard))
      (unmarked : (session.deedOf move).isMark = false)

variable {session next : Session} {move : Move}

theorem fetchOf?_of_requestOf? {task : Nat} {repository : Repository} {stage : LoadMore}
    (under : session.requestOf? task = some (repository, stage)) :
    session.fetchOf? task = stage.fetch? repository := by
  obtain ⟨activity, held, under⟩ := Option.bind_eq_some_iff.mp under
  rw [fetchOf?, held, Option.bind_some, Activity.fetch?_of_request? under]

theorem deedOf_of_requestOf? {task : Nat} {repository : Repository} {stage : LoadMore}
    (under : session.requestOf? task = some (repository, stage)) (reply : Option Reply) :
    session.deedOf (.advance task reply) = stage.deed repository session.world := by
  obtain ⟨activity, held, under⟩ := Option.bind_eq_some_iff.mp under
  rw [deedOf, held, Option.map_some, Option.getD_some, Activity.deed_of_request? under]

/-- A call begins outside requests for more, or with the first stage of one. -/
theorem eq_guard_of_request?_begin {call : Call} {repository : Repository} {stage : LoadMore}
    (found : call.begin.request? = some (repository, stage)) : stage = .guard := by
  cases call with
  | loadMore _ => cases found; rfl
  | refresh clear => cases clear <;> cases found
  | _ => cases found

/-- Every move is a step of a request for more, or leaves all of them where they are. -/
theorem RequestShift.of_move (moved : session.move move = some next) :
    RequestShift session move next := by
  -- What a move outside requests does to the request of the task that moves.
  have elsewhere (before : session.requestOf? (session.mover move) = none)
      (begun : ∀ repository stage,
        next.requestOf? (session.mover move) = some (repository, stage) → stage = .guard)
      (task : Nat) : next.requestOf? task = session.requestOf? task ∨
        session.requestOf? task = none ∧
          ∃ repository, next.requestOf? task = some (repository, .guard) := by
    by_cases mover : task = session.mover move
    · subst mover
      cases found : next.requestOf? (session.mover move) with
      | none => exact Or.inl before.symm
      | some request =>
        obtain ⟨repository, stage⟩ := request
        obtain rfl := begun repository stage found
        exact Or.inr ⟨before, repository, rfl⟩
    · exact Or.inl (part?_of_other Activity.request? moved mover)
  obtain turn := Turn.of_move moved
  cases turn with
  | start call =>
    refine .other (elsewhere ?_ fun repository stage found => ?_) rfl
    · exact part?_of_absent (List.getElem?_eq_none Nat.le.refl)
    · rw [requestOf?, part?_of_held List.getElem?_concat_length] at found
      exact eq_guard_of_request?_begin found
  | @advance task reply before after world held stepped =>
    obtain ⟨inside, -⟩ := List.getElem?_eq_some_iff.mp held
    have was : session.requestOf? task = before.request? := part?_of_held held
    have now : requestOf? ⟨world, session.activities.set task after⟩ task = after.request? :=
      part?_of_held (List.getElem?_set_self inside)
    have sought := Activity.advance_request stepped
    generalize found : before.request? = request at sought
    generalize found' : after.request? = request' at sought
    cases sought with
    | request advanced =>
      exact .request rfl (was.trans found) advanced (now.trans found') fun other different =>
        part?_of_other Activity.request? moved different
    | other begun =>
      refine .other (elsewhere (was.trans found) fun repository stage here => ?_) ?_
      · exact begun repository stage (found' ▸ now ▸ here)
      · rw [deedOf, held]
        exact Activity.isMark_deed found session.world

end CommitHistory.Session
