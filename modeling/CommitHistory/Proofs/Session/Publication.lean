/-
# What every move publishes

What a move publishes can be read off the session before it. A fetch publishes that it stored a
page, an edit says what it changed, and a removal says in its second step what it did in its
first. Everything else is silent.

## Main definitions

* `Fetch.published`, `Deed.published` — what a step of a fetch and a deed outside fetches publish.
* `Session.publication` — what a move publishes.

## Main results

* `Session.notices_of_move` — the notices of a move come behind all that were there.
* `Session.notices_of_play` — the notices of a run are those of its moves.
* `Activity.isOfRows_of_published` — all but edits and removals speak of rows only.
-/

import CommitHistory.Proofs.Session.Display
import CommitHistory.Proofs.Session.Refresh

namespace CommitHistory.Session

/-- What the next step of a fetch publishes: a page that was stored. -/
def Fetch.published (repository : Repository) (world : World) : Fetch → List Notice
  | .keep _ ticket lineage page =>
    if ticket.isValid world.store repository.id then
      [.loaded repository.id page.length (ticket.grown lineage page).size]
    else []
  | _ => []

/-- What an edit publishes. -/
def Edit.published (store : Store) : Edit → List Notice
  | .add repository => .added repository.id :: World.selectionNotices store (store.add repository)
  | .choose id => World.selectionNotices store { store with chosen := id }
  | .activate id => World.selectionNotices store { store with active := id }
  | .setScope scope => if store.scope = scope then [] else [.scope scope]
  | .setWantsMore _ _ => []
  | .clear id => [.cleared id]

/-- What a deed publishes, except for what a removal withholds until its second step. -/
def Deed.published (store : Store) : Deed → List Notice
  | .edit change => change.published store
  | _ => []

/-- What a step publishes, with the fetch under way or the deed outside fetches. -/
def published (world : World) (deed : Deed) : Option (Repository × Fetch) → List Notice
  | some (repository, stage) => stage.published repository world
  | none => deed.published world.store

/-- What the next step of an activity publishes. -/
def Activity.published (world : World) : Activity → List Notice
  | .remove (.forgetGate id notices) => .removed id :: notices
  | activity => Session.published world (activity.deed world) activity.fetch?

variable {task : Nat} {world world' : World} {reply : Option Reply}

/-! ### Steps of activities -/

theorem Edit.notices_apply (world : World) (change : Edit) :
    (change.apply world).notices = world.notices ++ change.published world.store := by
  cases change with
  | setScope scope =>
    rw [apply, published]
    split
    · exact (List.append_nil _).symm
    · rfl
  | setWantsMore _ _ => exact (List.append_nil _).symm
  | _ => rfl

theorem Fetch.notices_of_advance {repository : Repository} {stage next : Fetch} (deed : Deed)
    (advanced : stage.advance task repository world reply = some (world', next)) :
    world'.notices =
      world.notices ++ Session.published world deed (stage.underWay? repository) := by
  cases Steps.of_advance advanced with
  | @keep gate ticket lineage page valid =>
    have told : (Fetch.keep gate ticket lineage page).published repository world =
        [.loaded repository.id page.length (ticket.grown lineage page).size] := if_pos valid
    exact (congrArg (world.notices ++ ·) told).symm
  | @leave _ _ _ inside silent _ =>
    cases stage with
    | keep gate ticket lineage page =>
      cases reply with
      | some _ => cases advanced
      | none =>
        -- A page that is stored is an event.
        have told : (Fetch.keep gate ticket lineage page).published repository world = [] := by
          refine if_neg fun valid => ?_
          rw [events, if_pos valid] at silent
          cases silent
        exact (List.append_nil _).symm.trans (congrArg (world.notices ++ ·) told).symm
    | _ => first | exact (List.append_nil _).symm | cases inside
  | _ => exact (List.append_nil _).symm

theorem LoadMore.notices_of_advance {repository : Repository} {stage next : LoadMore}
    (advanced : stage.advance task repository world reply = some (world', next)) :
    world'.notices = world.notices ++
      Session.published world (stage.deed repository world) (stage.fetch? repository) := by
  cases stage with
  | guard =>
    cases reply with
    | some _ => cases advanced
    | none =>
      have silent : (LoadMore.guard.deed repository world).published world.store = [] := by
        rw [deed]
        split <;> rfl
      have none : Session.published world (LoadMore.guard.deed repository world)
          (LoadMore.guard.fetch? repository) = [] := silent
      rw [none, List.append_nil]
      rw [advance] at advanced
      split at advanced
      next => cases advanced; rfl
      next =>
        simp only at advanced
        split at advanced <;> cases advanced <;> rfl
  | fetching fetch =>
    obtain ⟨_, stepped, -⟩ := exists_of_map_eq_some advanced
    exact Fetch.notices_of_advance _ stepped
  | unmark _ => cases reply <;> cases advanced; exact (List.append_nil _).symm
  | done _ => cases advanced

theorem Children.notices_of_advance {stage next : Children}
    (advanced : stage.advance task world reply = some (world', next)) :
    world'.notices = world.notices ++ Session.published world .rest stage.fetch? := by
  cases stage with
  | select =>
    cases reply with
    | some _ => cases advanced
    | none =>
      rw [advance] at advanced
      split at advanced <;> cases advanced <;> exact (List.append_nil _).symm
  | fetching _ fetch =>
    obtain ⟨_, stepped, -⟩ := exists_of_map_eq_some advanced
    exact Fetch.notices_of_advance _ stepped
  | done _ => cases advanced

theorem Showing.Steps.notices {stage next : Showing}
    (steps : Showing.Steps task world stage reply world' next) :
    world'.notices = world.notices ++ Session.published world .rest stage.fetch? := by
  cases steps with
  | read advanced => exact Children.notices_of_advance advanced
  | _ => exact (List.append_nil _).symm

theorem Update.Steps.notices {stage next : Update}
    (steps : Update.Steps task world stage reply world' next) :
    world'.notices = world.notices ++ Session.published world stage.deed stage.fetch? := by
  cases steps with
  | clear id => rfl
  | showLines advanced => exact (Showing.Steps.of_advance advanced).notices
  | _ => exact (List.append_nil _).symm

theorem Refresh.Steps.notices {stage next : Refresh}
    (steps : Refresh.Steps task world stage reply world' next) :
    world'.notices = world.notices ++ Session.published world stage.deed stage.fetch? := by
  cases steps with
  | work steps => exact steps.notices
  | _ => exact (List.append_nil _).symm

theorem MoreLines.Steps.notices {stage next : MoreLines}
    (steps : MoreLines.Steps task world stage reply world' next) :
    world'.notices = world.notices ++ Session.published world (stage.deed world) stage.fetch? := by
  cases steps with
  | load advanced => exact LoadMore.notices_of_advance advanced
  | showLines advanced => exact (Showing.Steps.of_advance advanced).notices
  | refuse early =>
    rcases early with rfl | ⟨_, rfl⟩ <;> exact (List.append_nil _).symm
  | _ => exact (List.append_nil _).symm

theorem Handling.notices_of_advance {stage next : Handling}
    (advanced : stage.advance task world reply = some (world', next)) :
    world'.notices = world.notices ++ Session.published world stage.deed stage.fetch? := by
  cases stage with
  | start notice =>
    cases reply <;> cases notice <;> cases advanced <;> exact (List.append_nil _).symm
  | compare _ => cases reply <;> cases advanced; exact (List.append_nil _).symm
  | refreshing _ =>
    obtain ⟨_, stepped, -⟩ := exists_of_map_eq_some advanced
    exact (Refresh.Steps.of_advance stepped).notices
  | done _ => cases advanced

theorem Follow.notices_of_advance {stage next : Follow}
    (advanced : stage.advance task world reply = some (world', next)) :
    world'.notices = world.notices ++ Session.published world stage.deed stage.fetch? := by
  cases stage with
  | reading feed =>
    cases reply with
    | some _ => cases advanced
    | none =>
      rw [advance] at advanced
      split at advanced <;> cases advanced <;> exact (List.append_nil _).symm
  | handling _ _ =>
    obtain ⟨_, stepped, -⟩ := exists_of_map_eq_some advanced
    exact Handling.notices_of_advance stepped
  | refreshing _ _ =>
    obtain ⟨_, stepped, -⟩ := exists_of_map_eq_some advanced
    exact (Refresh.Steps.of_advance stepped).notices
  | _ => cases advanced

/-- What an activity publishes comes behind all that was published. -/
theorem Activity.notices_of_advance {activity after : Activity}
    (advanced : activity.advance task world reply = some (world', after)) :
    world'.notices = world.notices ++ activity.published world := by
  cases activity with
  | fetch _ _ =>
    obtain ⟨_, stepped, -⟩ := exists_of_map_eq_some advanced
    exact Fetch.notices_of_advance _ stepped
  | loadMore _ _ =>
    obtain ⟨_, stepped, -⟩ := exists_of_map_eq_some advanced
    exact LoadMore.notices_of_advance stepped
  | ancestor _ _ =>
    obtain ⟨_, stepped, -⟩ := exists_of_map_eq_some advanced
    obtain rfl := Ancestor.world_of_advance stepped
    exact (List.append_nil _).symm
  | edit change =>
    cases reply with
    | some _ => cases advanced
    | none =>
      obtain ⟨rfl, rfl⟩ := advanced
      exact change.notices_apply world
  | remove stage =>
    obtain ⟨_, stepped, rfl⟩ := exists_of_map_eq_some advanced
    unfold Removal.advance at stepped
    split at stepped
    next => cases stepped; exact (List.append_nil _).symm
    next => cases stepped; rfl
    next => cases stepped
  | children _ =>
    obtain ⟨_, stepped, -⟩ := exists_of_map_eq_some advanced
    exact Children.notices_of_advance stepped
  | refresh _ =>
    obtain ⟨_, stepped, -⟩ := exists_of_map_eq_some advanced
    exact (Refresh.Steps.of_advance stepped).notices
  | moreLines _ =>
    obtain ⟨_, stepped, -⟩ := exists_of_map_eq_some advanced
    exact (MoreLines.Steps.of_advance stepped).notices
  | handle _ =>
    obtain ⟨_, stepped, -⟩ := exists_of_map_eq_some advanced
    exact Handling.notices_of_advance stepped
  | follow _ =>
    obtain ⟨_, stepped, -⟩ := exists_of_map_eq_some advanced
    exact Follow.notices_of_advance stepped
  | openLine _ =>
    obtain ⟨_, stepped, -⟩ := exists_of_map_eq_some advanced
    obtain rfl := Opening.world_of_advance stepped
    exact (List.append_nil _).symm
  | ask _ =>
    cases reply with
    | none => cases advanced
    | some _ =>
      obtain ⟨rfl, -⟩ := advanced
      exact (List.append_nil _).symm
  | edited | told _ => cases advanced

/-! ### Notices about rows -/

/-- A notice about the rows of a repository. -/
def Notice.isOfRows : Notice → Bool
  | .cleared _ | .loaded _ _ _ => true
  | _ => false

theorem Fetch.isOfRows_of_published {repository : Repository} {stage : Fetch} {notice : Notice}
    (member : notice ∈ stage.published repository world) : notice.isOfRows = true := by
  cases stage with
  | keep gate ticket lineage page =>
    rw [published] at member
    split at member
    · obtain rfl := List.mem_singleton.mp member
      rfl
    · cases member
  | _ => cases member

/-- A deed that at most marks or drops the rows of one repository. -/
def Deed.isOfRows : Deed → Bool
  | .rest | .mark _ | .unmark _ | .edit (.clear _) => true
  | _ => false

theorem Deed.isOfRows_of_published {deed : Deed} (rows : deed.isOfRows = true) {store : Store}
    {notice : Notice} (member : notice ∈ deed.published store) : notice.isOfRows = true := by
  cases deed with
  | edit change =>
    cases change with
    | clear id =>
      obtain rfl := List.mem_singleton.mp member
      rfl
    | _ => cases rows
  | _ => cases member

theorem LoadMore.isOfRows_deed (repository : Repository) (world : World) (stage : LoadMore) :
    (stage.deed repository world).isOfRows = true := by
  cases stage with
  | guard =>
    rw [deed]
    split <;> rfl
  | _ => rfl

theorem Refresh.isOfRows_deed (stage : Refresh) : stage.deed.isOfRows = true := by
  cases stage with
  | updating _ update => cases update <;> rfl
  | _ => rfl

theorem Handling.isOfRows_deed (stage : Handling) : stage.deed.isOfRows = true := by
  cases stage with
  | refreshing refresh => exact refresh.isOfRows_deed
  | _ => rfl

/-- Only edits and removals do more than mark or drop the rows of one repository. -/
theorem Activity.isOfRows_deed (world : World) (activity : Activity) :
    (∃ change, activity = .edit change) ∨ (∃ stage, activity = .remove stage) ∨
      (activity.deed world).isOfRows = true := by
  cases activity with
  | edit change => exact .inl ⟨change, rfl⟩
  | remove stage => exact .inr (.inl ⟨stage, rfl⟩)
  | loadMore repository stage => exact .inr (.inr (stage.isOfRows_deed repository world))
  | refresh stage => exact .inr (.inr stage.isOfRows_deed)
  | moreLines stage =>
    refine .inr (.inr ?_)
    cases stage with
    | loading repository stage => exact stage.isOfRows_deed repository world
    | _ => rfl
  | handle stage => exact .inr (.inr stage.isOfRows_deed)
  | follow stage =>
    refine .inr (.inr ?_)
    cases stage with
    | handling _ stage => exact stage.isOfRows_deed
    | refreshing _ stage => exact stage.isOfRows_deed
    | _ => rfl
  | _ => exact .inr (.inr rfl)

/-- All but edits and removals speak of rows only. -/
theorem Activity.isOfRows_of_published {activity : Activity}
    (rows : (activity.deed world).isOfRows = true) {notice : Notice}
    (member : notice ∈ activity.published world) : notice.isOfRows = true := by
  unfold published at member
  split at member
  next => cases rows
  next =>
    cases under : activity.fetch? with
    | none =>
      rw [under] at member
      exact Deed.isOfRows_of_published rows member
    | some fetch =>
      rw [under] at member
      exact Fetch.isOfRows_of_published member

/-! ### Moves of a session -/

variable {session next : Session} {move : Move} {moves : List Move}

/-- What a move publishes. -/
def publication (session : Session) : Move → List Notice
  | .start _ => []
  | .advance task _ =>
    (session.activities[task]?.map fun activity => activity.published session.world).getD []

/-- What a move publishes comes behind all that was published. -/
theorem notices_of_move (moved : session.move move = some next) :
    next.world.notices = session.world.notices ++ session.publication move := by
  cases Turn.of_move moved with
  | start _ => exact (List.append_nil _).symm
  | advance held stepped =>
    rw [publication, held]
    exact Activity.notices_of_advance stepped

/-- What a run publishes is what its moves publish, in their order. -/
theorem notices_of_play (played : session.play moves = some next) :
    next.world.notices = session.world.notices ++ session.trace publication moves := by
  induction moves generalizing session with
  | nil =>
    obtain rfl := Option.some.inj played
    exact (List.append_nil _).symm
  | cons move rest ih =>
    obtain ⟨middle, moved, played⟩ := Option.bind_eq_some_iff.mp played
    rw [ih played, notices_of_move moved, List.append_assoc, trace, moved]

end CommitHistory.Session
