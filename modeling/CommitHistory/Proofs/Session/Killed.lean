/-
# Runs of git that are killed

A fetch of a repository whose source is git asks for several runs, and a signal may kill any
of them. It is refused just if one of its runs is broken, and then it changes no rows. A
listing that was killed is broken; a run of the search for the lineage that was killed is
not, and counts as one that found nothing. So killed runs do harm, unless some other run
of the same fetch is broken.

## Main definitions

* `Session.HearsGit` — a task is told what git says, and with which runs.
* `Refusing` — what a reply means for whether a fetch is refused.
* `Session.Unharmed` — killed runs of a fetch are refusals, and rows stay unless all is well.

## Main results

* `Course.isRefused_iff` — fetches and requests for more are refused just if a run is broken.
* `Session.unharmed_iff` — killed runs do no harm exactly where a run is broken anyway.
* `Session.not_unharmed` — a killed run can drop the rows.
-/

import CommitHistory.Git.Recorded
import CommitHistory.Proofs.Git.Report
import CommitHistory.Proofs.Session.Refusal
import Mathlib

namespace CommitHistory.Session

/-! ### What git says -/

/-- In a run a task is told what git says to its questions, and these are the runs of git. -/
inductive HearsGit (program : String) (task : Nat) : Session → List Move → List Git.Run → Prop
  | nil (session : Session) : HearsGit program task session [] []
  | silent {session next : Session} {move : Move} {moves : List Move} {runs : List Git.Run}
      (moved : session.move move = some next)
      (untold : ∀ reply, move ≠ .advance task (some reply))
      (rest : HearsGit program task next moves runs) :
      HearsGit program task session (move :: moves) runs
  | told {session next : Session} {question : Question} {reply : Reply} {moves : List Move}
      {answering runs : List Git.Run} (asked : session.question? task = some question)
      (held : (Git.reply program question.query).Held answering reply)
      (moved : session.move (.advance task (some reply)) = some next)
      (rest : HearsGit program task next moves runs) :
      HearsGit program task session (.advance task (some reply) :: moves) (answering ++ runs)

variable {program : String} {query : Query} {task : Nat} {runs : List Git.Run}

/-- A task that was told nothing for a while goes on to be told something. -/
theorem HearsGit.of_silent {session middle : Session} {moves : List Move} {count : Nat}
    (played : session.play (List.replicate count (.advance task none)) = some middle)
    (rest : HearsGit program task middle moves runs) :
    session.HearsGit program task (List.replicate count (.advance task none) ++ moves) runs := by
  induction count generalizing session with
  | zero =>
    obtain rfl := Option.some.inj played
    exact rest
  | succ count ih =>
    obtain ⟨next, moved, played⟩ := Option.bind_eq_some_iff.mp played
    exact .silent moved nofun (ih played)

/-- Git names no lineage for a fault just if a run is broken. -/
theorem isBroken_iff_of_lineage {answer : Except Fault (Option Lineage)}
    (held : (Git.reply program query).Held runs (.lineage answer)) :
    (∃ fault, answer = .error fault) ↔ ∃ run ∈ runs, run.IsBroken := by
  cases query with
  | lineage =>
    obtain ⟨first, second, between, rfl, one, two⟩ := held.of_bind
    cases two
    rw [List.append_nil]
    exact Git.reports_lineage? program first answer one
  | page _ _ _ | changes _ _ | ancestor _ =>
    obtain ⟨_, _, _, _, _, two⟩ := held.of_bind
    cases two

/-- Git hands out no page for a fault just if a run is broken. -/
theorem isBroken_iff_of_page {answer : Except Fault (List Commit)}
    (held : (Git.reply program query).Held runs (.page answer)) :
    (∃ fault, answer = .error fault) ↔ ∃ run ∈ runs, run.IsBroken := by
  cases query with
  | page ids limit skip =>
    obtain ⟨first, second, between, rfl, one, two⟩ := held.of_bind
    cases two
    rw [List.append_nil]
    exact Git.reports_page program ids limit skip first answer one
  | lineage | changes _ _ | ancestor _ =>
    obtain ⟨_, _, _, _, _, two⟩ := held.of_bind
    cases two

/-! ### When a fetch is refused -/

/-- A fetch is over with a fault. -/
def Fetch.IsRefused : Fetch → Prop
  | .done (.error _) => True
  | _ => False

/-- A request for more is over with a fault, or has nothing left to do but to take its mark away. -/
def LoadMore.IsRefused : LoadMore → Prop
  | .unmark (.error _) | .done (.error _) => True
  | _ => False

theorem Fetch.IsRefused.mayFail {stage : Fetch} (refused : stage.IsRefused) : stage.MayFail := by
  cases stage with
  | done result => cases result <;> trivial
  | _ => trivial

theorem LoadMore.IsRefused.mayFail {stage : LoadMore} (refused : stage.IsRefused) :
    stage.MayFail := by
  cases stage with
  | unmark result | done result => cases result <;> trivial
  | _ => trivial

/-- A step without a reply is no refusal, and one with a reply is a refusal just if the reply is
a fault. -/
inductive Refusing (before after : Prop) : Option Reply → Prop
  | silent (same : after ↔ before) : Refusing before after none
  | lineage {answer : Except Fault (Option Lineage)}
      (now : after ↔ before ∨ ∃ fault, answer = .error fault) :
      Refusing before after (some (.lineage answer))
  | page {answer : Except Fault (List Commit)}
      (now : after ↔ before ∨ ∃ fault, answer = .error fault) :
      Refusing before after (some (.page answer))

variable {repository : Repository} {world world' : World} {reply : Option Reply}

theorem Fetch.refusing_of_advance {stage stage' : Fetch}
    (advanced : stage.advance task repository world reply = some (world', stage')) :
    Refusing stage.IsRefused stage'.IsRefused reply := by
  cases stage' with
  | done result =>
    cases Ends.of_advance advanced with
    | withoutLineage fault => exact .lineage (iff_of_true trivial (Or.inr ⟨fault, rfl⟩))
    | withoutPage fault => exact .page (iff_of_true trivial (Or.inr ⟨fault, rfl⟩))
    | _ => exact .silent Iff.rfl
  | askPage _ _ _ | drop _ _ =>
    cases Steps.of_advance advanced
    exact .lineage (by simp [IsRefused])
  | keep _ _ _ _ =>
    cases Steps.of_advance advanced
    exact .page (by simp [IsRefused])
  | _ => cases Steps.of_advance advanced <;> exact .silent Iff.rfl

theorem LoadMore.isRefused_ofFetch (fetch : Fetch) :
    (LoadMore.ofFetch fetch).IsRefused ↔ fetch.IsRefused := by
  cases fetch with
  | done result => cases result <;> exact Iff.rfl
  | _ => exact Iff.rfl

theorem LoadMore.refusing_of_advance {stage stage' : LoadMore}
    (advanced : stage.advance task repository world reply = some (world', stage')) :
    Refusing stage.IsRefused stage'.IsRefused reply := by
  cases stage with
  | guard =>
    cases reply with
    | some _ => cases advanced
    | none =>
      rw [advance] at advanced
      refine .silent (iff_of_false ?_ id)
      split at advanced
      next => cases advanced; exact id
      next => split at advanced <;> cases advanced <;> exact id
  | fetching fetch =>
    obtain ⟨fetch', stepped, rfl⟩ := exists_of_map_eq_some advanced
    have under : ¬ fetch.IsRefused := by
      intro refused
      cases fetch with
      | done result => cases stepped
      | _ => exact refused
    have refusing := Fetch.refusing_of_advance stepped
    rw [isRefused_ofFetch]
    rwa [iff_false_intro under] at refusing
  | unmark result =>
    cases reply <;> cases advanced
    cases result <;> exact .silent Iff.rfl
  | done result => cases advanced

variable {σ : Type} {view : Activity → Option (Repository × σ)}
  {advance : Nat → Repository → World → σ → Option Reply → Option (World × σ)}
  {session final : Session} {moves : List Move} {stage last : σ}

/-- A part of an activity that talks to git is refused just if a run is broken, or if it was refused
before. -/
theorem Course.isRefused_iff {refused : σ → Prop}
    (steps : ∀ {world world' : World} {stage stage' : σ} {reply : Option Reply},
      advance task repository world stage reply = some (world', stage') →
        Refusing (refused stage) (refused stage') reply)
    (course : Course view advance task repository session stage moves final last)
    (hears : session.HearsGit program task moves runs) :
    refused last ↔ refused stage ∨ ∃ run ∈ runs, run.IsBroken := by
  induction course generalizing runs with
  | nil =>
    cases hears
    simp
  | wait moved other _ ih =>
    cases hears with
    | silent moved' _ rest =>
      cases moved.symm.trans moved'
      exact ih rest
    | told _ _ _ _ => exact absurd rfl other
  | step _ moved advanced _ ih =>
    cases hears with
    | silent moved' untold rest =>
      cases moved.symm.trans moved'
      cases steps advanced with
      | silent same => rw [ih rest, same]
      | lineage _ | page _ => exact absurd rfl (untold _)
    | told _ held moved' rest =>
      cases moved.symm.trans moved'
      simp only [List.mem_append, or_and_right, exists_or, ← or_assoc]
      cases steps advanced with
      | lineage now => rw [ih rest, now, isBroken_iff_of_lineage held]
      | page now => rw [ih rest, now, isBroken_iff_of_page held]

/-! ### What killed runs do -/

/-- The rows that are stored for a repository are the same. -/
def SameRows (id : RepositoryId) (before after : World) : Prop :=
  after.store.basis? id = before.store.basis? id

/-- The rows that are stored for a repository stay, of the same lineage, and may grow. -/
def RowsStay (id : RepositoryId) (before after : World) : Prop :=
  ∀ lineage graph, before.store.basis? id = some (lineage, graph) →
    ∃ longer, after.store.basis? id = some (lineage, longer) ∧ graph.rows <+: longer.rows

theorem SameRows.rowsStay {id : RepositoryId} (same : SameRows id world world') :
    RowsStay id world world' := fun _ graph stored =>
  ⟨graph, same.trans stored, List.prefix_refl _⟩

/-- If a signal killed a run of a fetch then the fetch is refused and changes no rows, and it drops
rows, or begins them anew, only if all runs of the search for the lineage ended with a code. -/
structure Unharmed (id : RepositoryId) (task : Nat) (session : Session) (moves : List Move)
    (runs : List Git.Run) (isRefused : Prop) : Prop where
  fails : (∃ run ∈ runs, run.IsKilled) →
    isRefused ∧ session.Keeping (· = task) (SameRows id) moves
  stays : ¬ session.Keeping (· = task) (RowsStay id) moves →
    ∀ run ∈ runs, ¬ run.IsListing → run.HasCode

/-- Where refusals change no rows, killed runs do no harm exactly where a run is broken anyway. -/
theorem Course.unharmed_iff_broken {refused : σ → Prop} {id : RepositoryId}
    (steps : ∀ {world world' : World} {stage stage' : σ} {reply : Option Reply},
      advance task repository world stage reply = some (world', stage') →
        Refusing (refused stage) (refused stage') reply)
    (course : Course view advance task repository session stage moves final last)
    (hears : session.HearsGit program task moves runs) (begun : ¬ refused stage)
    (same : refused last → session.Keeping (· = task) (SameRows id) moves) :
    session.Unharmed id task moves runs (refused last) ↔
      ((∃ run ∈ runs, run.IsKilled ∧ ¬ run.IsListing) → ∃ run ∈ runs, run.IsBroken) := by
  have reported : refused last ↔ ∃ run ∈ runs, run.IsBroken :=
    (course.isRefused_iff steps hears).trans (or_iff_right begun)
  constructor
  · rintro unharmed ⟨run, member, killed, -⟩
    exact reported.mp (unharmed.fails ⟨run, member, killed⟩).1
  · intro broken
    refine ⟨?_, fun strays run member search => ?_⟩
    · rintro ⟨run, member, killed⟩
      have fails : refused last := reported.mpr <| by
        by_cases listing : run.IsListing
        · exact ⟨run, member, killed.isBroken listing⟩
        · exact broken ⟨run, member, killed, listing⟩
      exact ⟨fails, same fails⟩
    · have sound : ¬ ∃ run ∈ runs, run.IsBroken := fun harmed =>
        strays ((same (reported.mpr harmed)).mono fun _ _ => SameRows.rowsStay)
      obtain started | killed | code := run.cases
      · exact absurd ⟨run, member, Or.inl started⟩ sound
      · exact absurd (broken ⟨run, member, killed, search⟩) sound
      · exact code

/-- A fetch, or a request for more, of a repository whose source is git is refused just if one of
its runs is broken, and then it has changed no rows. So killed runs of it do no harm exactly if a
run is broken anyway whenever a run of the search for the lineage was killed. -/
theorem unharmed_iff (session final : Session) (program : String) (task : Nat)
    (repository : Repository) (moves : List Move) (runs : List Git.Run)
    (hears : session.HearsGit program task moves runs) :
    (∀ last, FetchCourse task repository session .lookup moves final last →
      (session.Unharmed repository.id task moves runs last.IsRefused ↔
        ((∃ run ∈ runs, run.IsKilled ∧ ¬ run.IsListing) → ∃ run ∈ runs, run.IsBroken))) ∧
    (∀ last, RequestCourse task repository session .guard moves final last →
      (session.Unharmed repository.id task moves runs last.IsRefused ↔
        ((∃ run ∈ runs, run.IsKilled ∧ ¬ run.IsListing) → ∃ run ∈ runs, run.IsBroken))) := by
  refine ⟨fun last course => ?_, fun last course => ?_⟩
  · refine course.unharmed_iff_broken Fetch.refusing_of_advance hears id fun fails => ?_
    have silent := course.keeping (fun advanced may => Fetch.silent_of_advance advanced may)
      fails.mayFail
    exact silent.2.mono fun _ _ step => congrArg (Store.basis? · repository.id) step.store
  · refine course.unharmed_iff_broken LoadMore.refusing_of_advance hears id fun fails => ?_
    have remarked := course.keeping (fun advanced may => LoadMore.remarked_of_advance advanced may)
      fails.mayFail
    exact remarked.2.mono fun _ _ step => step.rows repository.id

/-- Rows are stored, one more page is wanted and a fetch begins. -/
def wantingRun : List Move :=
  sampleRun ++ [.start (.edit (.setWantsMore ⟨"r"⟩ true)), .advance 1 none,
    .start (.fetch sampleRepository)]

/-- A git with a lone branch that is killed when it lists commits. -/
def killedListing : List Git.Recording :=
  [⟨["symbolic-ref", "--quiet", "HEAD"], some 0,
      Text.Utf8.encode "refs/heads/main\n".toList, []⟩,
    ⟨["rev-parse", "--verify"], some 0, Text.Utf8.encode "1\n".toList, []⟩,
    ⟨["log"], none, [], []⟩]

/-- The listing is killed: the fetch is refused. -/
theorem unharmed_of_killedListing :
    ∃ moves final runs last,
      FetchCourse 2 sampleRepository (sampleAfter wantingRun) .lookup moves final last ∧
      (sampleAfter wantingRun).HearsGit "git" 2 moves runs ∧ (∃ run ∈ runs, run.IsKilled) ∧
      last = .done (.error (.git "log" "" none)) ∧
      (sampleAfter wantingRun).Unharmed ⟨"r"⟩ 2 moves runs last.IsRefused := by
  let fault : Fault := .git "log" "" none
  let moves : List Move := List.replicate 5 (.advance 2 none) ++
    [.advance 2 (some (.lineage (.ok (some sampleLineage)))),
      .advance 2 (some (.page (.error fault)))]
  have played : (sampleAfter wantingRun).play moves =
      some (sampleAfter (wantingRun ++ moves)) := play_sampleAfter rfl
  have named : (Git.reply "git" .lineage).run (Git.Recording.answer killedListing) =
      (.lineage (.ok (some sampleLineage)), [["symbolic-ref", "--quiet", "HEAD"],
        ["rev-parse", "--verify", "--quiet", "HEAD^\x7bcommit\x7d"],
        ["rev-parse", "--symbolic-full-name", "main@\x7bupstream\x7d"],
        ["config", "--get", "branch.main.remote"]]) := by
    cbv
  have listed : (Git.reply "git" (.page ["refs/heads/main"] 1 1)).run
      (Git.Recording.answer killedListing) =
        (.page (.error fault), [Git.pageArguments ["refs/heads/main"] 1 1]) := by
    cbv
  have hears : (sampleAfter wantingRun).HearsGit "git" 2 moves _ :=
    .of_silent rfl (.told rfl (Git.Dialogue.held_of_run named) rfl
      (.told rfl (Git.Dialogue.held_of_run listed) rfl (.nil _)))
  obtain ⟨last, ended, course⟩ := exists_fetchCourse played
    (rfl : (sampleAfter wantingRun).activities[2]? = some (.fetch sampleRepository .lookup))
  obtain rfl : .done (.error fault) = last := by cases ended; rfl
  have answered : Git.Recording.answer killedListing
      (Git.pageArguments ["refs/heads/main"] 1 1) = .ended none [] [] := by
    cbv
  let listing : Git.Run :=
    .of (Git.Recording.answer killedListing) (Git.pageArguments ["refs/heads/main"] 1 1)
  have killed : listing.IsKilled := ⟨[], [], answered⟩
  obtain ⟨fetched, -⟩ :=
    unharmed_iff _ (sampleAfter (wantingRun ++ moves)) "git" 2 sampleRepository moves _ hears
  refine ⟨moves, _, _, _, course, hears, ⟨listing, ?_, killed⟩, rfl,
    (fetched _ course).mpr fun _ => ⟨listing, ?_, killed.isBroken rfl⟩⟩ <;>
  exact List.mem_append_right _ (List.mem_singleton_self listing)

/-- A git that is killed when it is asked for the branch. -/
def killedSearch : List Git.Recording := [⟨["symbolic-ref"], none, [], []⟩]

/-- The search for the branch is killed: the fetch finds no history and drops the rows. -/
theorem not_unharmed :
    ∃ moves final runs rows,
      FetchCourse 2 sampleRepository (sampleAfter wantingRun) .lookup moves final
        (.done (.ok [])) ∧
      (sampleAfter wantingRun).HearsGit "git" 2 moves runs ∧ (∃ run ∈ runs, run.IsKilled) ∧
      (sampleAfter wantingRun).world.store.basis? ⟨"r"⟩ = some rows ∧
      final.world.store.basis? ⟨"r"⟩ = none ∧
      ¬ (sampleAfter wantingRun).Unharmed ⟨"r"⟩ 2 moves runs (Fetch.done (.ok [])).IsRefused := by
  let moves : List Move := List.replicate 5 (.advance 2 none) ++
    [.advance 2 (some (.lineage (.ok none))), .advance 2 none]
  have played : (sampleAfter wantingRun).play moves =
      some (sampleAfter (wantingRun ++ moves)) := play_sampleAfter rfl
  have named : (Git.reply "git" .lineage).run (Git.Recording.answer killedSearch) =
      (.lineage (.ok none), [["symbolic-ref", "--quiet", "HEAD"]]) := by
    cbv
  have hears : (sampleAfter wantingRun).HearsGit "git" 2 moves _ :=
    .of_silent rfl (.told rfl (Git.Dialogue.held_of_run named) rfl
      (.silent rfl (fun reply told => by cases told) (.nil _)))
  obtain ⟨last, ended, course⟩ := exists_fetchCourse played
    (rfl : (sampleAfter wantingRun).activities[2]? = some (.fetch sampleRepository .lookup))
  obtain rfl : .done (.ok []) = last := by cases ended; rfl
  let search : Git.Run :=
    .of (Git.Recording.answer killedSearch) ["symbolic-ref", "--quiet", "HEAD"]
  have killed : ∃ run ∈ [search], run.IsKilled :=
    ⟨search, List.mem_singleton_self search, [], [], rfl⟩
  exact ⟨moves, _, _, _, course, hears, killed, rfl, rfl,
    fun unharmed => (unharmed.fails killed).1⟩

end CommitHistory.Session
