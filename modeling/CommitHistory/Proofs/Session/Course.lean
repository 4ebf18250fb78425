/-
# The course of a part of an activity

A fetch, or a request for more, begins, takes its steps and is over, while all other
activities take theirs in between. Its course is that piece of a run. What the steps of one
task do, or those of all the others, can then be told apart.

## Main definitions

* `Session.Course` — a run in which a part of an activity goes from one stage to another.
* `Session.Keeping` — what the moves of certain tasks have in common.
* `Session.told` — what a task is told in a run.

## Main results

* `Session.exists_fetchCourse`, `Session.exists_requestCourse` — calls take such courses.
* `Session.Course.keeping` — what the steps of a part do that comes to a certain end.
-/

import CommitHistory.Proofs.Session.Request
import CommitHistory.Proofs.Session.SingleFlight

namespace CommitHistory.Session

variable {σ : Type}

/-- In a run the part of the activity of a task goes from one stage to another. The task takes no
steps but those of the part. -/
inductive Course (view : Activity → Option (Repository × σ))
    (advance : Nat → Repository → World → σ → Option Reply → Option (World × σ)) (task : Nat)
    (repository : Repository) : Session → σ → List Move → Session → σ → Prop
  | nil (session : Session) (stage : σ) :
      Course view advance task repository session stage [] session stage
  | wait {session next final : Session} {move : Move} {moves : List Move} {stage last : σ}
      (moved : session.move move = some next) (other : session.mover move ≠ task)
      (rest : Course view advance task repository next stage moves final last) :
      Course view advance task repository session stage (move :: moves) final last
  | step {session next final : Session} {reply : Option Reply} {moves : List Move}
      {stage between last : σ} (under : session.part? view task = some (repository, stage))
      (moved : session.move (.advance task reply) = some next)
      (advanced : advance task repository session.world stage reply = some (next.world, between))
      (rest : Course view advance task repository next between moves final last) :
      Course view advance task repository session stage (.advance task reply :: moves) final last

/-- The course of a fetch. -/
abbrev FetchCourse : Nat → Repository → Session → Fetch → List Move → Session → Fetch → Prop :=
  Course Activity.fetch? Fetch.advance

/-- The course of a request for more. -/
abbrev RequestCourse :
    Nat → Repository → Session → LoadMore → List Move → Session → LoadMore → Prop :=
  Course Activity.request? LoadMore.advance

/-- Moves of certain tasks keep something of the world. -/
def Keeping (who : Nat → Prop) (same : World → World → Prop) : Session → List Move → Prop :=
  Throughout fun session move => who (session.mover move) →
    ∀ next, session.move move = some next → same session.world next.world

/-- What a task is told in a run. -/
def told (task : Nat) (moves : List Move) : List Reply :=
  moves.filterMap fun
    | .advance mover reply => if mover = task then reply else none
    | .start _ => none

variable {view : Activity → Option (Repository × σ)}
  {advance : Nat → Repository → World → σ → Option Reply → Option (World × σ)} {task : Nat}
  {repository : Repository} {session next final : Session} {move : Move}
  {moves : List Move} {stage last : σ} {who : Nat → Prop}
  {same : World → World → Prop}

theorem told_advance (task : Nat) (reply : Option Reply) (moves : List Move) :
    told task (.advance task reply :: moves) = reply.toList ++ told task moves := by
  cases reply <;> simp [told]

theorem told_of_other (other : session.mover move ≠ task) (moved : session.move move = some next)
    (moves : List Move) : told task (move :: moves) = told task moves := by
  cases move with
  | start _ => rfl
  | advance mover reply =>
    have different : ¬ mover = task := other
    simp [told, different]

theorem keeping_cons (moved : session.move move = some next) :
    session.Keeping who same (move :: moves) ↔
      (who (session.mover move) → same session.world next.world) ∧
        next.Keeping who same moves := by
  simp [Keeping, Throughout, moved]

theorem Keeping.mono {who : Nat → Prop} {same wider : World → World → Prop}
    (widens : ∀ before after, same before after → wider before after)
    (keeping : session.Keeping who same moves) : session.Keeping who wider moves := by
  induction moves generalizing session with
  | nil => trivial
  | cons move rest ih =>
    exact ⟨fun mine next moved => widens _ _ (keeping.1 mine next moved), fun next moved =>
      ih (keeping.2 next moved)⟩

/-- Whoever goes on alone is met by nobody. -/
theorem keeping_of_alone (same : World → World → Prop) (session : Session) (task : Nat)
    (replies : List (Option Reply)) :
    session.Keeping (· ≠ task) same (replies.map (.advance task)) := by
  induction replies generalizing session with
  | nil => trivial
  | cons reply rest ih => exact ⟨fun other => absurd rfl other, fun next _ => ih next⟩

/-- Whoever begins a call leaves the world as it is. -/
theorem keeping_start (who : Nat → Prop) (session : Session) (call : Call)
    (refl : same session.world session.world) : session.Keeping who same [.start call] := by
  refine (keeping_cons (move_start session call)).mpr ⟨fun _ => refl, trivial⟩

namespace Course

theorem play (course : Course view advance task repository session stage moves final last) :
    session.play moves = some final := by
  induction course with
  | nil => rfl
  | wait moved _ _ ih | step _ moved _ _ ih =>
    exact Option.bind_eq_some_iff.mpr ⟨_, moved, ih⟩

/-- What holds of a stage if it holds of the next one, and holds at the end, holds all the way; so
the steps of the part may be looked at with this knowledge. -/
theorem keeping {fits : σ → Prop}
    (back : ∀ {world world' : World} {stage stage' : σ} {reply : Option Reply},
      advance task repository world stage reply = some (world', stage') → fits stage' →
        fits stage ∧ same world world')
    (course : Course view advance task repository session stage moves final last)
    (ends : fits last) : fits stage ∧ session.Keeping (· = task) same moves := by
  induction course with
  | nil => exact ⟨ends, trivial⟩
  | wait moved other _ ih =>
    obtain ⟨now, rest⟩ := ih ends
    exact ⟨now, (keeping_cons moved).mpr ⟨fun mine => absurd mine other, rest⟩⟩
  | step _ moved advanced _ ih =>
    obtain ⟨next, rest⟩ := ih ends
    obtain ⟨now, kept⟩ := back advanced next
    exact ⟨now, (keeping_cons moved).mpr ⟨fun _ => kept, rest⟩⟩

/-- A call that is nothing but the part takes its course. -/
theorem exists_of_call (wrap : σ → Activity)
    (steps : ∀ world stage reply, (wrap stage).advance task world reply =
      (advance task repository world stage reply).map (Prod.map id wrap))
    (seen : ∀ world stage reply, (advance task repository world stage reply).isSome →
      view (wrap stage) = some (repository, stage))
    (played : session.play moves = some final)
    (held : session.activities[task]? = some (wrap stage)) :
    ∃ last, final.activities[task]? = some (wrap last) ∧
      Course view advance task repository session stage moves final last := by
  induction moves generalizing session stage with
  | nil =>
    obtain rfl := Option.some.inj played
    exact ⟨stage, held, .nil session stage⟩
  | cons move rest ih =>
    obtain ⟨next, moved, played⟩ := Option.bind_eq_some_iff.mp played
    by_cases mine : task = session.mover move
    · cases Turn.of_move moved with
      | start call =>
        have absent : session.activities[task]? = none :=
          List.getElem?_eq_none (Nat.le_of_eq mine.symm)
        cases held.symm.trans absent
      | @advance number reply before after world here stepped =>
        obtain rfl : task = number := mine
        obtain rfl := Option.some.inj (held.symm.trans here)
        rw [steps] at stepped
        obtain ⟨stage', advanced, rfl⟩ := exists_of_map_eq_some stepped
        obtain ⟨inside, -⟩ := List.getElem?_eq_some_iff.mp held
        obtain ⟨last, ended, course⟩ := ih played (List.getElem?_set_self inside)
        have under := seen _ _ _ (Option.isSome_of_eq_some advanced)
        exact ⟨last, ended, .step ((part?_of_held held).trans under) moved advanced course⟩
    · have stayed := (activities_of_other moved mine).trans held
      obtain ⟨last, ended, course⟩ := ih played stayed
      exact ⟨last, ended, .wait moved (Ne.symm mine) course⟩

end Course

/-- A call for a fetch takes its course. -/
theorem exists_fetchCourse {stage : Fetch} (played : session.play moves = some final)
    (held : session.activities[task]? = some (.fetch repository stage)) :
    ∃ last, final.activities[task]? = some (.fetch repository last) ∧
      FetchCourse task repository session stage moves final last := by
  refine Course.exists_of_call (.fetch repository) (fun _ _ _ => rfl) (fun _ stage _ goes => ?_)
    played held
  cases stage with
  | done result => cases goes
  | _ => rfl

/-- A request for more takes its course. -/
theorem exists_requestCourse {stage : LoadMore} (played : session.play moves = some final)
    (held : session.activities[task]? = some (.loadMore repository stage)) :
    ∃ last, final.activities[task]? = some (.loadMore repository last) ∧
      RequestCourse task repository session stage moves final last := by
  refine Course.exists_of_call (.loadMore repository) (fun _ _ _ => rfl)
    (fun _ stage _ goes => ?_) played held
  cases stage with
  | done result => cases goes
  | _ => rfl

end CommitHistory.Session
