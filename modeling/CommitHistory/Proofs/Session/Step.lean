/-
# What one step of an activity does to the rest of the session

Most activities contain a fetch, some of them four levels deep. From outside only two
kinds of step can be told apart: a step of the fetch that is under way, or one deed on
the store and the turnstiles by an activity without a fetch. Whatever the activity, a step
of its fetch is a step of `Fetch.advance`, and a fetch begins at its first stage.

## Main definitions

* `Activity.fetch?` — the fetch that is under way in an activity.
* `Deed`, `Activity.deed` — what a step outside fetches does.

## Main results

* `Activity.advance_outward` — every step of an activity is of one of the two kinds.
* `Session.Shift.of_move` — the same for the moves of a session, with what happens to the
  fetches of all its activities.
-/

import CommitHistory.Session.Activity

namespace CommitHistory.Session

/-! ### The fetch under way -/

/-- A fetch of a repository, unless it is over. -/
def Fetch.underWay? (repository : Repository) : Fetch → Option (Repository × Fetch)
  | .done _ => none
  | fetch => some (repository, fetch)

theorem Fetch.eq_of_underWay? {repository other : Repository} {stage fetch : Fetch}
    (under : stage.underWay? other = some (repository, fetch)) :
    other = repository ∧ stage = fetch := by
  cases stage <;> cases under <;> exact ⟨rfl, rfl⟩

/-- The fetch under way in a request for more. -/
def LoadMore.fetch? (repository : Repository) : LoadMore → Option (Repository × Fetch)
  | .fetching fetch => fetch.underWay? repository
  | _ => none

/-- The fetch under way in a search for lines. -/
def Children.fetch? : Children → Option (Repository × Fetch)
  | .fetching repository fetch => fetch.underWay? repository
  | _ => none

/-- The fetch under way while lines are shown. -/
def Showing.fetch? : Showing → Option (Repository × Fetch)
  | .reading children => children.fetch?
  | _ => none

/-- The fetch under way in an update. -/
def Update.fetch? : Update → Option (Repository × Fetch)
  | .showing stage => stage.fetch?
  | _ => none

/-- The fetch under way in a request for a refresh. -/
def Refresh.fetch? : Refresh → Option (Repository × Fetch)
  | .updating _ update => update.fetch?
  | _ => none

/-- The fetch under way in a request for more lines. -/
def MoreLines.fetch? : MoreLines → Option (Repository × Fetch)
  | .loading repository stage => stage.fetch? repository
  | .showing stage => stage.fetch?
  | _ => none

/-- The fetch under way in the reaction to a notice. -/
def Handling.fetch? : Handling → Option (Repository × Fetch)
  | .refreshing refresh => refresh.fetch?
  | _ => none

/-- The fetch under way in a reader of notices. -/
def Follow.fetch? : Follow → Option (Repository × Fetch)
  | .handling _ stage => stage.fetch?
  | .refreshing _ stage => stage.fetch?
  | _ => none

/-- The fetch that is under way in an activity, with its repository. -/
def Activity.fetch? : Activity → Option (Repository × Fetch)
  | .fetch repository stage => stage.underWay? repository
  | .loadMore repository stage => stage.fetch? repository
  | .children stage => stage.fetch?
  | .refresh stage => stage.fetch?
  | .moreLines stage => stage.fetch?
  | .handle stage => stage.fetch?
  | .follow stage => stage.fetch?
  | _ => none

@[simp] theorem LoadMore.fetch?_ofFetch (repository : Repository) (stage : Fetch) :
    (LoadMore.ofFetch stage).fetch? repository = stage.underWay? repository := by
  cases stage <;> rfl

@[simp] theorem Children.fetch?_ofFetch (repository : Repository) (stage : Fetch) :
    (Children.ofFetch repository stage).fetch? = stage.underWay? repository := by
  cases stage <;> rfl

@[simp] theorem Showing.fetch?_ofChildren (stage : Children) :
    (Showing.ofChildren stage).fetch? = stage.fetch? := by
  cases stage with
  | done result => cases result <;> rfl
  | _ => rfl

@[simp] theorem Update.fetch?_ofShowing (stage : Showing) :
    (Update.ofShowing stage).fetch? = stage.fetch? := by
  cases stage <;> rfl

@[simp] theorem Refresh.fetch?_ofUpdate (runs : Nat) (stage : Update) :
    (Refresh.ofUpdate runs stage).fetch? = stage.fetch? := by
  cases stage <;> rfl

@[simp] theorem MoreLines.fetch?_ofLoadMore (repository : Repository) (stage : LoadMore) :
    (MoreLines.ofLoadMore repository stage).fetch? = stage.fetch? repository := by
  unfold MoreLines.ofLoadMore
  split <;> rfl

@[simp] theorem MoreLines.fetch?_ofShowing (stage : Showing) :
    (MoreLines.ofShowing stage).fetch? = stage.fetch? := by
  cases stage <;> rfl

@[simp] theorem Handling.fetch?_ofRefresh (stage : Refresh) :
    (Handling.ofRefresh stage).fetch? = stage.fetch? := by
  cases stage <;> rfl

@[simp] theorem Follow.fetch?_ofHandling (feed : Feed) (stage : Handling) :
    (Follow.ofHandling feed stage).fetch? = stage.fetch? := by
  cases stage <;> rfl

@[simp] theorem Follow.fetch?_ofRefresh (feed : Feed) (stage : Refresh) :
    (Follow.ofRefresh feed stage).fetch? = stage.fetch? := by
  cases stage <;> rfl

/-! ### Deeds -/

/-- What one step outside fetches does to the store and the turnstiles. -/
inductive Deed where
  /-- Both stay as they are. -/
  | rest
  | edit (change : Edit)
  | remove (id : RepositoryId)
  /-- The turnstile of a removed repository is forgotten. -/
  | forget (id : RepositoryId)
  /-- A request for more marks the rows of a repository. -/
  | mark (id : RepositoryId)
  | unmark (id : RepositoryId)
deriving DecidableEq, Repr

namespace Deed

/-- The store after a deed. -/
def store (store : Store) : Deed → Store
  | .edit (.add repository) => store.add repository
  | .edit (.choose id) => { store with chosen := id }
  | .edit (.activate id) => { store with active := id }
  | .edit (.setScope scope) => if store.scope = scope then store else store.setScope scope
  | .edit (.setWantsMore id wantsMore) => store.alter id fun cached => { cached with wantsMore }
  | .edit (.clear id) => store.invalidate id
  | .remove id => store.remove id
  | .mark id => store.alter id fun cached => { cached with wantsMore := true, loadingMore := true }
  | .unmark id => store.alter id fun cached => { cached with loadingMore := false }
  | .rest | .forget _ => store

/-- The turnstiles after a deed. -/
def gates (gates : Gates) : Deed → Gates
  | .forget id => gates.forget id
  | _ => gates

end Deed

/-- What the next step of a request for more does, outside its fetch. -/
def LoadMore.deed (repository : Repository) (world : World) : LoadMore → Deed
  | .guard =>
    if (world.store.cached.get? repository.id).any fun cached => !cached.loadingMore then
      .mark repository.id
    else .rest
  | .unmark _ => .unmark repository.id
  | _ => .rest

/-- What the next step of an update does, outside its fetch. -/
def Update.deed : Update → Deed
  | .clear id => .edit (.clear id)
  | _ => .rest

/-- What the next step of a request for a refresh does, outside its fetch. -/
def Refresh.deed : Refresh → Deed
  | .updating _ update => update.deed
  | _ => .rest

/-- What the next step of a request for more lines does, outside its fetch. -/
def MoreLines.deed (world : World) : MoreLines → Deed
  | .loading repository stage => stage.deed repository world
  | _ => .rest

/-- What the next step of the reaction to a notice does, outside its fetch. -/
def Handling.deed : Handling → Deed
  | .refreshing refresh => refresh.deed
  | _ => .rest

/-- What the next step of a reader of notices does, outside its fetch. -/
def Follow.deed : Follow → Deed
  | .handling _ stage => stage.deed
  | .refreshing _ stage => stage.deed
  | _ => .rest

/-- What the next step of an activity does, outside its fetch. -/
def Activity.deed (world : World) : Activity → Deed
  | .loadMore repository stage => stage.deed repository world
  | .edit change => .edit change
  | .remove (.start id) => .remove id
  | .remove (.forgetGate id _) => .forget id
  | .refresh stage => stage.deed
  | .moreLines stage => stage.deed world
  | .handle stage => stage.deed
  | .follow stage => stage.deed
  | _ => .rest

/-! ### Removals -/

/-- The repository that a deed removes, or whose turnstile it forgets. -/
def Deed.removes? : Deed → Option RepositoryId
  | .remove id | .forget id => some id
  | _ => none

/-- The repository that an activity removes. -/
def Activity.removes? : Activity → Option RepositoryId
  | .remove (.start id) | .remove (.forgetGate id _) => some id
  | _ => none

theorem LoadMore.removes?_deed (repository : Repository) (world : World) (stage : LoadMore) :
    (stage.deed repository world).removes? = none := by
  cases stage with
  | guard => rw [deed]; split <;> rfl
  | _ => rfl

theorem Refresh.removes?_deed (stage : Refresh) : stage.deed.removes? = none := by
  cases stage with
  | updating _ update => cases update <;> rfl
  | _ => rfl

theorem MoreLines.removes?_deed (world : World) (stage : MoreLines) :
    (stage.deed world).removes? = none := by
  cases stage with
  | loading repository stage => exact stage.removes?_deed repository world
  | _ => rfl

theorem Handling.removes?_deed (stage : Handling) : stage.deed.removes? = none := by
  cases stage with
  | refreshing refresh => exact refresh.removes?_deed
  | _ => rfl

theorem Follow.removes?_deed (stage : Follow) : stage.deed.removes? = none := by
  cases stage with
  | handling _ stage => exact stage.removes?_deed
  | refreshing _ stage => exact stage.removes?_deed
  | _ => rfl

/-- Nothing but a removal removes a repository or forgets its turnstile. -/
theorem Activity.removes?_deed (world : World) (activity : Activity) :
    (activity.deed world).removes? = activity.removes? := by
  cases activity with
  | loadMore repository stage => exact stage.removes?_deed repository world
  | remove stage => cases stage <;> rfl
  | refresh stage => exact stage.removes?_deed
  | moreLines stage => exact stage.removes?_deed world
  | handle stage => exact stage.removes?_deed
  | follow stage => exact stage.removes?_deed
  | _ => rfl

/-! ### Steps of activities -/

/-- A step seen from outside. Before it the fetch `before` is under way, after it `after`. -/
inductive Outward (task : Nat) (world : World) (reply : Option Reply) (deed : Deed)
    (world' : World) : Option (Repository × Fetch) → Option (Repository × Fetch) → Prop
  | fetch {repository : Repository} {stage stage' : Fetch}
      (advanced : stage.advance task repository world reply = some (world', stage')) :
      Outward task world reply deed world' (some (repository, stage))
        (stage'.underWay? repository)
  | deed {after : Option (Repository × Fetch)}
      (begun : ∀ repository stage, after = some (repository, stage) → stage = .lookup)
      (store : world'.store = deed.store world.store)
      (gates : world'.gates = deed.gates world.gates)
      (pageSize : world'.pageSize = world.pageSize) :
      Outward task world reply deed world' none after

variable {task : Nat} {world world' : World} {reply : Option Reply}

/-- A step of a part of something is the step of the part, put back into the whole. -/
theorem exists_of_map_eq_some {α β : Type} {step : Option (World × α)} {whole : α → β} {next : β}
    (mapped : step.map (Prod.map id whole) = some (world', next)) :
    ∃ part, step = some (world', part) ∧ next = whole part := by
  obtain ⟨⟨_, part⟩, stepped, same⟩ := Option.map_eq_some_iff.mp mapped
  obtain ⟨rfl, rfl⟩ := Prod.mk.inj same
  exact ⟨part, stepped, rfl⟩

/-- A step that changes neither the store nor the turnstiles, by an activity without a fetch. -/
theorem Outward.idle (store : world'.store = world.store) (gates : world'.gates = world.gates)
    (pageSize : world'.pageSize = world.pageSize) :
    Outward task world reply .rest world' none none :=
  .deed (fun _ _ found => nomatch found) store gates pageSize

/-- A step that begins a fetch and does nothing else. -/
theorem Outward.begin (repository : Repository) :
    Outward task world reply .rest world none (some (repository, .lookup)) :=
  .deed (fun _ _ found => by cases found; rfl) rfl rfl rfl

theorem Fetch.advance_outward {repository : Repository} {stage stage' : Fetch} {deed : Deed}
    (advanced : stage.advance task repository world reply = some (world', stage')) :
    Outward task world reply deed world' (stage.underWay? repository)
      (stage'.underWay? repository) := by
  cases stage with
  | done result => simp [Fetch.advance] at advanced
  | _ => exact .fetch advanced

theorem LoadMore.advance_outward {repository : Repository} {stage next : LoadMore}
    (advanced : stage.advance task repository world reply = some (world', next)) :
    Outward task world reply (stage.deed repository world) world' (stage.fetch? repository)
      (next.fetch? repository) := by
  cases stage with
  | guard =>
    cases reply with
    | some _ => cases advanced
    | none =>
      rw [advance] at advanced
      rw [deed]
      cases held : world.store.cached.get? repository.id with
      | none =>
        -- Without rows there is nothing to append to.
        rw [held] at advanced
        cases advanced
        exact .idle rfl rfl rfl
      | some cached =>
        rw [held] at advanced
        simp only at advanced
        split at advanced
        next loading =>
          cases advanced
          simp only [Option.any_some, loading]
          exact .idle rfl rfl rfl
        next idle =>
          cases advanced
          simp only [Option.any_some, idle, Bool.not_false, if_true]
          exact .deed (fun _ _ found => by cases found; rfl) rfl rfl rfl
  | fetching fetch =>
    obtain ⟨fetch', stepped, rfl⟩ := exists_of_map_eq_some advanced
    rw [fetch?_ofFetch]
    exact Fetch.advance_outward stepped
  | unmark result =>
    cases reply <;> cases advanced
    exact .deed (fun _ _ found => nomatch found) rfl rfl rfl
  | done result => cases advanced

theorem Children.advance_outward {stage next : Children}
    (advanced : stage.advance task world reply = some (world', next)) :
    Outward task world reply .rest world' stage.fetch? next.fetch? := by
  cases stage with
  | select =>
    cases reply with
    | some _ => cases advanced
    | none =>
      rw [advance] at advanced
      split at advanced <;> cases advanced
      next => exact .idle rfl rfl rfl
      next repository _ => exact .begin repository
  | fetching repository fetch =>
    obtain ⟨fetch', stepped, rfl⟩ := exists_of_map_eq_some advanced
    rw [fetch?_ofFetch]
    exact Fetch.advance_outward stepped
  | done result => cases advanced

theorem Showing.advance_outward {stage next : Showing}
    (advanced : stage.advance task world reply = some (world', next)) :
    Outward task world reply .rest world' stage.fetch? next.fetch? := by
  cases stage with
  | reading children =>
    obtain ⟨children', stepped, rfl⟩ := exists_of_map_eq_some advanced
    rw [fetch?_ofChildren]
    exact Children.advance_outward stepped
  | putLines _ | dropFault | dropLines _ | putFault _ =>
    -- What is shown is no part of the store.
    cases reply <;> cases advanced
    exact .idle rfl rfl rfl
  | done => cases advanced

theorem Update.advance_outward {stage next : Update}
    (advanced : stage.advance task world reply = some (world', next)) :
    Outward task world reply stage.deed world' stage.fetch? next.fetch? := by
  cases stage with
  | enter =>
    cases reply <;> cases advanced
    split <;> exact .idle rfl rfl rfl
  | waiting =>
    cases reply with
    | some _ => cases advanced
    | none =>
      rw [advance] at advanced
      split at advanced <;> cases advanced
      exact .idle rfl rfl rfl
  | begin =>
    cases reply <;> cases advanced
    split <;> exact .idle rfl rfl rfl
  | findCleared =>
    cases reply with
    | some _ => cases advanced
    | none =>
      rw [advance] at advanced
      split at advanced <;> cases advanced <;> exact .idle rfl rfl rfl
  | clear id =>
    cases reply <;> cases advanced
    exact .deed (fun _ _ found => nomatch found) rfl rfl rfl
  | showing stage =>
    obtain ⟨stage', stepped, rfl⟩ := exists_of_map_eq_some advanced
    rw [fetch?_ofShowing]
    exact Showing.advance_outward stepped
  | leave =>
    cases reply <;> cases advanced
    exact .idle rfl rfl rfl
  | done => cases advanced

theorem Refresh.advance_outward {stage next : Refresh}
    (advanced : stage.advance task world reply = some (world', next)) :
    Outward task world reply stage.deed world' stage.fetch? next.fetch? := by
  cases stage with
  | request _ | trigger | stop _ =>
    cases reply <;> cases advanced
    exact .idle rfl rfl rfl
  | tryStart _ =>
    cases reply with
    | some _ => cases advanced
    | none =>
      rw [advance] at advanced
      split at advanced <;> cases advanced <;> exact .idle rfl rfl rfl
  | takePending _ | lookAgain _ =>
    cases reply <;> cases advanced
    split <;> exact .idle rfl rfl rfl
  | updating runs update =>
    obtain ⟨update', stepped, rfl⟩ := exists_of_map_eq_some advanced
    rw [fetch?_ofUpdate]
    exact Update.advance_outward stepped
  | done runs => cases advanced

theorem MoreLines.advance_outward {stage next : MoreLines}
    (advanced : stage.advance task world reply = some (world', next)) :
    Outward task world reply (stage.deed world) world' stage.fetch? next.fetch? := by
  cases stage with
  | select | claim _ =>
    cases reply with
    | some _ => cases advanced
    | none =>
      rw [advance] at advanced
      split at advanced <;> cases advanced <;> exact .idle rfl rfl rfl
  | enter repository =>
    cases reply <;> cases advanced
    split <;> exact .idle rfl rfl rfl
  | waiting repository =>
    cases reply with
    | some _ => cases advanced
    | none =>
      rw [advance] at advanced
      split at advanced <;> cases advanced
      exact .idle rfl rfl rfl
  | loading repository stage =>
    obtain ⟨stage', stepped, rfl⟩ := exists_of_map_eq_some advanced
    rw [fetch?_ofLoadMore]
    exact LoadMore.advance_outward stepped
  | showing stage =>
    obtain ⟨stage', stepped, rfl⟩ := exists_of_map_eq_some advanced
    rw [fetch?_ofShowing]
    exact Showing.advance_outward stepped
  | leave _ | release _ =>
    cases reply <;> cases advanced
    exact .idle rfl rfl rfl
  | done result => cases advanced

theorem Handling.advance_outward {stage next : Handling}
    (advanced : stage.advance task world reply = some (world', next)) :
    Outward task world reply stage.deed world' stage.fetch? next.fetch? := by
  cases stage with
  | start notice =>
    -- Whatever the notice is, the reaction begins before any fetch.
    cases reply <;> cases notice <;> cases advanced <;> exact .idle rfl rfl rfl
  | compare id =>
    cases reply <;> cases advanced
    split <;> exact .idle rfl rfl rfl
  | refreshing refresh =>
    obtain ⟨refresh', stepped, rfl⟩ := exists_of_map_eq_some advanced
    rw [fetch?_ofRefresh]
    exact Refresh.advance_outward stepped
  | done runs => cases advanced

theorem Follow.advance_outward {stage next : Follow}
    (advanced : stage.advance task world reply = some (world', next)) :
    Outward task world reply stage.deed world' stage.fetch? next.fetch? := by
  cases stage with
  | reading feed =>
    cases reply with
    | some _ => cases advanced
    | none =>
      rw [advance] at advanced
      split at advanced <;> cases advanced <;> exact .idle rfl rfl rfl
  | handling feed stage =>
    obtain ⟨stage', stepped, rfl⟩ := exists_of_map_eq_some advanced
    rw [fetch?_ofHandling]
    exact Handling.advance_outward stepped
  | refreshing feed stage =>
    obtain ⟨stage', stepped, rfl⟩ := exists_of_map_eq_some advanced
    rw [fetch?_ofRefresh]
    exact Refresh.advance_outward stepped
  | _ => cases advanced

/-- Looking for a common ancestor changes nothing. -/
theorem Ancestor.world_of_advance {repository : Repository} {stage next : Ancestor}
    (advanced : stage.advance repository world reply = some (world', next)) : world' = world := by
  unfold Ancestor.advance at advanced
  split at advanced
  next =>
    split at advanced
    next => cases advanced; rfl
    next => split at advanced <;> cases advanced <;> rfl
  iterate 4
    next => cases advanced; rfl
  next => cases advanced

/-- Opening a line changes nothing. -/
theorem Opening.world_of_advance {stage next : Opening}
    (advanced : stage.advance world reply = some (world', next)) : world' = world := by
  unfold Opening.advance at advanced
  split at advanced
  next => cases advanced; rfl
  next =>
    split at advanced
    next => cases advanced; rfl
    next => split at advanced <;> cases advanced <;> rfl
  next => cases advanced; rfl
  next => cases advanced

theorem Edit.store_apply (world : World) (change : Edit) :
    (change.apply world).store = (Deed.edit change).store world.store := by
  cases change with
  | setScope scope =>
    simp only [Edit.apply, Deed.store]
    split <;> rfl
  | _ => rfl

theorem Edit.gates_apply (world : World) (change : Edit) :
    (change.apply world).gates = world.gates := by
  cases change with
  | setScope scope =>
    simp only [Edit.apply]
    split <;> rfl
  | _ => rfl

theorem Edit.pageSize_apply (world : World) (change : Edit) :
    (change.apply world).pageSize = world.pageSize := by
  cases change with
  | setScope scope =>
    simp only [Edit.apply]
    split <;> rfl
  | _ => rfl

theorem Activity.advance_outward {activity next : Activity}
    (advanced : activity.advance task world reply = some (world', next)) :
    Outward task world reply (activity.deed world) world' activity.fetch? next.fetch? := by
  -- An activity that wraps a stage steps as its stage does; the others take a single step.
  cases activity with
  | fetch repository stage =>
    obtain ⟨stage', stepped, rfl⟩ := exists_of_map_eq_some advanced
    exact Fetch.advance_outward stepped
  | loadMore repository stage =>
    obtain ⟨stage', stepped, rfl⟩ := exists_of_map_eq_some advanced
    exact LoadMore.advance_outward stepped
  | ancestor repository stage =>
    obtain ⟨stage', stepped, rfl⟩ := exists_of_map_eq_some advanced
    obtain rfl := Ancestor.world_of_advance stepped
    exact .idle rfl rfl rfl
  | edit change =>
    cases reply with
    | some _ => cases advanced
    | none =>
      obtain ⟨rfl, rfl⟩ := advanced
      exact .deed (fun _ _ found => nomatch found) (Edit.store_apply world change)
        (Edit.gates_apply world change) (Edit.pageSize_apply world change)
  | remove stage =>
    obtain ⟨stage', stepped, rfl⟩ := exists_of_map_eq_some advanced
    unfold Removal.advance at stepped
    split at stepped
    iterate 2
      next =>
        obtain ⟨rfl, rfl⟩ := stepped
        exact .deed (fun _ _ found => nomatch found) rfl rfl rfl
    next => cases stepped
  | children stage =>
    obtain ⟨stage', stepped, rfl⟩ := exists_of_map_eq_some advanced
    exact Children.advance_outward stepped
  | refresh stage =>
    obtain ⟨stage', stepped, rfl⟩ := exists_of_map_eq_some advanced
    exact Refresh.advance_outward stepped
  | moreLines stage =>
    obtain ⟨stage', stepped, rfl⟩ := exists_of_map_eq_some advanced
    exact MoreLines.advance_outward stepped
  | handle stage =>
    obtain ⟨stage', stepped, rfl⟩ := exists_of_map_eq_some advanced
    exact Handling.advance_outward stepped
  | follow stage =>
    obtain ⟨stage', stepped, rfl⟩ := exists_of_map_eq_some advanced
    exact Follow.advance_outward stepped
  | openLine stage =>
    obtain ⟨stage', stepped, rfl⟩ := exists_of_map_eq_some advanced
    obtain rfl := Opening.world_of_advance stepped
    exact .idle rfl rfl rfl
  | ask question =>
    cases reply with
    | none => cases advanced
    | some answer =>
      obtain ⟨rfl, rfl⟩ := advanced
      exact .idle rfl rfl rfl
  | edited | told _ => cases advanced

/-- Only a removal goes on as a removal. -/
theorem Activity.removes?_of_advance {activity after : Activity} {id : RepositoryId}
    (advanced : activity.advance task world reply = some (world', after))
    (removes : after.removes? = some id) : activity.removes? = some id := by
  cases activity with
  | fetch _ _ | loadMore _ _ | ancestor _ _ | children _ | refresh _ | moreLines _ | handle _
  | follow _ | openLine _ =>
    obtain ⟨_, -, rfl⟩ := exists_of_map_eq_some advanced
    cases removes
  | remove stage =>
    obtain ⟨stage', stepped, rfl⟩ := exists_of_map_eq_some advanced
    unfold Removal.advance at stepped
    split at stepped
    next => cases stepped; exact removes
    next => cases stepped; cases removes
    next => cases stepped
  | edit _ | ask _ =>
    cases reply <;> cases advanced
    cases removes
  | edited | told _ => cases advanced

/-! ### Moves of a session -/

/-- The fetch that is under way in the activity of a task. -/
def fetchOf? (session : Session) (task : Nat) : Option (Repository × Fetch) :=
  session.activities[task]?.bind Activity.fetch?

/-- The fetch that a move advances. -/
def moved? (session : Session) : Move → Option (Repository × Fetch)
  | .start _ => none
  | .advance task _ => session.fetchOf? task

/-- What a move does to the store and the turnstiles, outside fetches. -/
def deedOf (session : Session) : Move → Deed
  | .start _ => .rest
  | .advance task _ =>
    (session.activities[task]?.map fun activity => activity.deed session.world).getD .rest

/-- What a move does, seen from outside. -/
inductive Shift (session : Session) : Move → Session → Prop
  | fetch {task : Nat} {reply : Option Reply} {repository : Repository} {stage stage' : Fetch}
      {world' : World} {next : Session}
      (under : session.fetchOf? task = some (repository, stage))
      (advanced : stage.advance task repository session.world reply = some (world', stage'))
      (world : next.world = world')
      (mine : next.fetchOf? task = stage'.underWay? repository)
      (others : ∀ other, other ≠ task → next.fetchOf? other = session.fetchOf? other) :
      Shift session (.advance task reply) next
  | deed {move : Move} {next : Session} (nothing : session.moved? move = none)
      (fetches : ∀ task, next.fetchOf? task = session.fetchOf? task ∨
        session.fetchOf? task = none ∧
          ∃ repository, next.fetchOf? task = some (repository, .lookup))
      (store : next.world.store = (session.deedOf move).store session.world.store)
      (gates : next.world.gates = (session.deedOf move).gates session.world.gates)
      (pageSize : next.world.pageSize = session.world.pageSize) :
      Shift session move next

variable {session next : Session}

theorem move_start (session : Session) (call : Call) :
    session.move (.start call) = some (session.start call) := rfl

/-- A step of an activity can be made in the session. -/
theorem move_of_activity {session : Session} {task : Nat} {reply : Option Reply}
    {activity after : Activity} {world : World} (held : session.activities[task]? = some activity)
    (stepped : activity.advance task session.world reply = some (world, after)) :
    session.move (.advance task reply) = some ⟨world, session.activities.set task after⟩ := by
  simp [move, advance, held, stepped]

theorem fetchOf?_set (world : World) {task : Nat} {activity : Activity}
    (held : session.activities[task]? = some activity) (other : Nat) (after : Activity) :
    fetchOf? ⟨world, session.activities.set task after⟩ other =
      if other = task then after.fetch? else session.fetchOf? other := by
  obtain ⟨inside, -⟩ := List.getElem?_eq_some_iff.mp held
  unfold fetchOf?
  rw [List.getElem?_set]
  by_cases same : other = task
  · simp [same, inside]
  · rw [if_neg (Ne.symm same), if_neg same]

/-- A call begins outside fetches, or with the first stage of one. -/
theorem eq_lookup_of_fetch?_begin {call : Call} {repository : Repository} {stage : Fetch}
    (found : call.begin.fetch? = some (repository, stage)) : stage = .lookup := by
  cases call with
  | fetch _ => cases found; rfl
  | refresh clear => cases clear <;> cases found
  | _ => cases found

/-- A call that was started comes after all the others. -/
theorem fetchOf?_start (call : Call) (task : Nat) :
    (session.start call).fetchOf? task =
      if task = session.activities.length then call.begin.fetch? else session.fetchOf? task := by
  rw [fetchOf?, start, List.getElem?_append]
  split
  next old => rw [if_neg (Nat.ne_of_lt old), fetchOf?]
  next new =>
    by_cases last : task = session.activities.length
    · rw [if_pos last, last, Nat.sub_self]
      rfl
    · have beyond : session.activities.length < task := by omega
      rw [if_neg last, fetchOf?, List.getElem?_eq_none (Nat.le_of_lt beyond),
        List.getElem?_eq_none (Nat.sub_pos_of_lt beyond)]

theorem fetchOf?_length : session.fetchOf? session.activities.length = none := by
  rw [fetchOf?, List.getElem?_eq_none Nat.le.refl, Option.bind_none]

theorem Shift.of_start (call : Call) : Shift session (.start call) (session.start call) := by
  refine .deed rfl (fun task => ?_) rfl rfl rfl
  rw [fetchOf?_start]
  split
  next last =>
    rw [last, fetchOf?_length]
    cases found : call.begin.fetch? with
    | none => exact Or.inl rfl
    | some fetch =>
      obtain ⟨repository, stage⟩ := fetch
      obtain rfl := eq_lookup_of_fetch?_begin found
      exact Or.inr ⟨rfl, repository, rfl⟩
  next => exact Or.inl rfl

theorem Shift.of_advance {task : Nat} {reply : Option Reply}
    (advanced : session.advance task reply = some next) :
    Shift session (.advance task reply) next := by
  obtain ⟨activity, held, advanced⟩ := Option.bind_eq_some_iff.mp advanced
  obtain ⟨⟨world, after⟩, stepped, made⟩ := Option.bind_eq_some_iff.mp advanced
  obtain rfl := Option.some.inj made
  have before : session.fetchOf? task = activity.fetch? := by rw [fetchOf?, held]; rfl
  have outward := Activity.advance_outward stepped
  generalize found : activity.fetch? = fetch at outward before
  generalize found' : after.fetch? = fetch' at outward
  cases outward with
  | fetch advanced =>
    refine .fetch before advanced rfl ?_ fun other different => ?_
    · rw [fetchOf?_set world held, if_pos rfl, found']
    · rw [fetchOf?_set world held, if_neg different]
  | deed begun store gates pageSize =>
    have deed : session.deedOf (.advance task reply) = activity.deed session.world := by
      rw [deedOf, held]; rfl
    refine .deed before (fun other => ?_) (deed ▸ store) (deed ▸ gates) pageSize
    rw [fetchOf?_set world held]
    split
    next same =>
      subst same
      rw [before, found']
      cases fetch' with
      | none => exact Or.inl rfl
      | some fetch =>
        obtain ⟨repository, stage⟩ := fetch
        obtain rfl := begun repository stage rfl
        exact Or.inr ⟨rfl, repository, rfl⟩
    next => exact Or.inl rfl

/-- Every move is a step of a fetch or a deed. -/
theorem Shift.of_move {move : Move} (moved : session.move move = some next) :
    Shift session move next := by
  cases move with
  | start call =>
    obtain rfl := Option.some.inj moved
    exact .of_start call
  | advance task reply => exact .of_advance moved

end CommitHistory.Session
