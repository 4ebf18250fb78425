/-
# How far a history is shown

The pages of a history are shown one after another for as long as the last line offers more.
So the rounds end early where the commits that are shown are closed under parents, whatever
comes below them: a root at the end of a page hides the unrelated lines that follow. With a
source that answers from a complete history, what is shown is exactly the history up to the
first such place, or up to as many pages as were asked for.

## Main definitions

* `Serves` — a source answers from a history.
* `World.Holds` — some commits are fetched and shown, and nothing is under way.
* `Reaches` — how many pages are shown.

## Main results

* `World.Holds.perform_moreLines` — a request for more lines shows one more page.
* `extendLines_of_holds` — what comes of the rounds.
* `shows_showPages` — what is shown in the end, and when that is all that was asked for.
* `shows_showPages_of_rooted` — a history with one root is shown as far as was asked for.
-/

import CommitHistory.CommandLine.Program
import CommitHistory.Proofs.Graph.Complete
import CommitHistory.Proofs.Session.Alone

namespace CommitHistory.Session

open Commit (Closed Complete)

/-- A source answers from a history: it is at a lineage that stays, and a page is so many commits
of the history after the first few, whichever references are named. -/
structure Serves (oracle : Question → Reply) (source : Nat) (lineage : Lineage)
    (history : List Commit) : Prop where
  lineage : oracle ⟨source, .lineage⟩ = .lineage (.ok (some lineage))
  page : ∀ ids limit skip,
    oracle ⟨source, .page ids limit skip⟩ = .page (.ok ((history.drop skip).take limit))

/-- Commits of the selected repository are fetched and shown, and nothing is under way. -/
structure World.Holds (world : World) (repository : Repository) (lineage : Lineage)
    (pageSize : Nat) (commits : List Commit) : Prop where
  pageSize : world.pageSize = pageSize
  selected : world.store.selectedRepository? = some repository
  idle : world.gates.IdleAt repository.id
  paged : ∃ pages, pages.flatten = commits ∧
    world.store.cached.get? repository.id = some
      { lineage, graph := .ofPages lineage world.store.scope pages, wantsMore := false
        loadingMore := false } ∧
    world.display = .resting
      (TreeLine.ofRows repository.id (Graph.ofPages lineage world.store.scope pages).rows)

variable {m : Type → Type} [Monad m] [LawfulMonad m] {oracle : Question → Reply} {source : Nat}
  {lineage : Lineage} {history commits : List Commit} {repository : Repository} {pageSize : Nat}
  {store : Store} {id : RepositoryId} {pages : List (List Commit)} {session : Session}

/-! ### One more page -/

theorem Ticket.grown_of_graph (laid : (take store id).graph lineage =
    .ofPages lineage store.scope pages) (page : List Commit) :
    (take store id).grown lineage page = .ofPages lineage store.scope (pages ++ [page]) := by
  rw [grown, laid, Graph.ofPages_concat]
  rfl

/-- The next page is what comes in the history below the pages that are there. -/
theorem Serves.pageQuery (serves : Serves oracle source lineage history)
    (laid : (Ticket.take store id).graph lineage = .ofPages lineage store.scope pages)
    (pageSize : Nat) :
    oracle ⟨source, (Ticket.take store id).pageQuery pageSize lineage⟩ =
      .page (.ok ((history.drop pages.flatten.length).take pageSize)) := by
  rw [Ticket.pageQuery, laid, Graph.size_ofPages]
  exact serves.page _ _ _

/-- Where nothing was fetched a refresh fetches and shows the first page. -/
theorem perform_refresh (held : repository.source = some source)
    (serves : Serves oracle source lineage history)
    (rest : session.world.display = .resting [])
    (selected : session.world.store.selectedRepository? = some repository)
    (idle : session.world.gates.IdleAt repository.id)
    (unknown : session.world.store.cached.get? repository.id = none) :
    ∃ next, session.perform (fun question => (pure (oracle question) : m Reply)) (.refresh false) =
        pure (next, some (.runs 1)) ∧
      next.world.Holds repository lineage session.world.pageSize
        (history.take session.world.pageSize) := by
  obtain ⟨world, others⟩ := session
  dsimp only at rest selected idle unknown ⊢
  have laid : (Ticket.take world.store repository.id).graph lineage =
      .ofPages lineage world.store.scope [] := by
    rw [Ticket.graph, Ticket.take, unknown]
    rfl
  have missing : world.store.fresh? repository.id = none := by
    rw [Store.fresh?, unknown]
    rfl
  obtain ⟨gates, notices, free, fetched⟩ :=
    Fetch.run_alone others.length (world.refreshing others.length) held missing idle serves.lineage
      (serves.pageQuery laid world.pageSize)
  let first := (history.drop 0).take world.pageSize
  have grown : (Ticket.take world.store repository.id).grown lineage first =
      .ofPages lineage world.store.scope [first] := Ticket.grown_of_graph laid first
  have stored : (world.store.withPage repository.id lineage first).cached.get? repository.id =
      some { lineage, graph := .ofPages lineage world.store.scope [first], wantsMore := false
             loadingMore := false } := by
    rw [Store.get?_withPage, grown, Store.isLoadingMore, unknown]
    rfl
  refine ⟨_, perform_of_run (Activity.run_refresh (Refresh.run_alone rest selected fetched)) rfl
    (by decide), rfl, selected, free, [first], List.flatten_singleton, stored, ?_⟩
  exact congrArg (fun graph => Display.resting (TreeLine.ofRows repository.id graph.rows)) grown

/-- A request for more lines fetches the next page and shows all that is there. -/
theorem World.Holds.perform_moreLines (held : repository.source = some source)
    (serves : Serves oracle source lineage history)
    (holds : session.world.Holds repository lineage pageSize commits) :
    ∃ next, session.perform (fun question => (pure (oracle question) : m Reply)) .moreLines =
        pure (next, some (.flag (.ok true))) ∧
      next.world.Holds repository lineage pageSize
        (commits ++ (history.drop commits.length).take pageSize) := by
  obtain ⟨world, others⟩ := session
  obtain ⟨rfl, selected, idle, pages, rfl, cached, rest⟩ := holds
  dsimp only at selected idle cached rest ⊢
  have laid : (Ticket.take world.store repository.id).graph lineage =
      .ofPages lineage world.store.scope pages := by
    rw [Ticket.graph, Ticket.take, cached]
    simp
  obtain ⟨gates, notices, table, free, kept, loaded⟩ :=
    MoreLines.run_alone others.length rest selected held cached rfl idle serves.lineage
      (serves.pageQuery laid world.pageSize)
  have grown := Ticket.grown_of_graph laid
    ((history.drop pages.flatten.length).take world.pageSize)
  rw [grown] at kept loaded
  refine ⟨_, perform_of_run (Activity.run_moreLines loaded) rfl (by decide), rfl, selected, free,
    pages ++ [(history.drop pages.flatten.length).take world.pageSize], ?_, kept, rfl⟩
  rw [List.flatten_concat]

/-! ### The rounds -/

/-- How many pages are shown once so many are there and so many may be: as many as it takes until
the commits are closed under parents, or all. -/
structure Reaches (history : List Commit) (pageSize there pages reached : Nat) : Prop where
  least : there ≤ reached
  most : reached ≤ pages
  before : ∀ count, there ≤ count → count < reached → ¬ Closed (history.take (count * pageSize))
  last : reached = pages ∨ Closed (history.take (reached * pageSize))

namespace Reaches

variable {there pages reached : Nat}

theorem here (most : there ≤ pages)
    (last : there = pages ∨ Closed (history.take (there * pageSize))) :
    Reaches history pageSize there pages there :=
  ⟨Nat.le_refl there, most, fun _ least less => absurd less (Nat.not_lt.mpr least), last⟩

theorem further (missing : ¬ Closed (history.take (there * pageSize)))
    (reaches : Reaches history pageSize (there + 1) pages reached) :
    Reaches history pageSize there pages reached := by
  refine ⟨Nat.le_of_succ_le reaches.least, reaches.most, ?_, reaches.last⟩
  intro count least less
  rcases Nat.eq_or_lt_of_le least with rfl | later
  · exact missing
  · exact reaches.before count later less

/-- The number of pages is determined. -/
theorem unique {other : Nat} (reaches : Reaches history pageSize there pages reached)
    (others : Reaches history pageSize there pages other) : reached = other := by
  have le {reached other : Nat} (reaches : Reaches history pageSize there pages reached)
      (others : Reaches history pageSize there pages other) : reached ≤ other := by
    by_contra beyond
    rcases others.last with rfl | closed
    · exact beyond reaches.most
    · exact reaches.before other others.least (Nat.not_le.mp beyond) closed
  exact Nat.le_antisymm (le reaches others) (le others reaches)

end Reaches

/-- The next page comes below the first commits. -/
theorem take_append_page (history : List Commit) (count pageSize : Nat) :
    history.take (count * pageSize) ++
        (history.drop (history.take (count * pageSize)).length).take pageSize =
      history.take ((count + 1) * pageSize) := by
  have below : history.drop (history.take (count * pageSize)).length =
      history.drop (count * pageSize) := by
    rw [List.length_take, List.drop_eq_drop_iff]
    omega
  rw [below, ← List.take_add, Nat.succ_mul]

theorem offersMore_iff : session.offersMore = true ↔
    ∃ other, session.world.display.lines.getLast? = some (.more other) := by
  unfold offersMore
  split
  next other last => exact iff_of_true rfl ⟨other, last⟩
  next none => exact iff_of_false (fun offers => nomatch offers) fun ⟨other, last⟩ => none other last

/-- The last line offers more unless the commits are closed. -/
theorem World.Holds.offersMore_iff (complete : Complete history)
    (holds : session.world.Holds repository lineage pageSize commits) (first : commits <+: history) :
    session.offersMore = true ↔ ¬ Closed commits := by
  obtain ⟨-, -, -, pages, rfl, -, rest⟩ := holds
  rw [Session.offersMore_iff, rest,
    ← Graph.openLanes_ofPages_ne_nil_iff complete first lineage session.world.store.scope]
  exact TreeLine.getLast?_ofRows_eq_more_iff repository.id _

/-- What is shown of the first commits. -/
theorem World.Holds.shows (complete : Complete history)
    (holds : session.world.Holds repository lineage pageSize commits) (first : commits <+: history) :
    TreeLine.Shows repository.id session.world.display.lines commits (¬ Closed commits) := by
  obtain ⟨-, -, -, pages, rfl, -, rest⟩ := holds
  rw [rest]
  exact TreeLine.shows_ofPages complete first repository.id lineage session.world.store.scope

/-- What comes of the rounds. -/
theorem extendLines_of_holds (held : repository.source = some source)
    (serves : Serves oracle source lineage history) (complete : Complete history) (rounds : Nat)
    {there : Nat} (holds : session.world.Holds repository lineage pageSize
      (history.take (there * pageSize))) :
    ∃ shown reached, session.extendLines (fun question => (pure (oracle question) : m Reply))
        rounds = pure (.ok shown) ∧
      Reaches history pageSize there (there + rounds) reached ∧
      shown.world.Holds repository lineage pageSize (history.take (reached * pageSize)) := by
  -- The rounds that are left go down as the pages that are there go up.
  induction rounds generalizing session there with
  | zero =>
    exact ⟨session, there, rfl, .here (Nat.le_refl there) (Or.inl rfl), holds⟩
  | succ rounds ih =>
    have offers := holds.offersMore_iff complete (List.take_prefix _ history)
    by_cases closed : Closed (history.take (there * pageSize))
    · refine ⟨session, there, ?_, .here (Nat.le_add_right there _) (Or.inr closed), holds⟩
      rw [extendLines, if_neg (mt offers.mp (not_not.mpr closed))]
    · obtain ⟨next, performed, paged⟩ := holds.perform_moreLines (m := m) held serves
      rw [take_append_page] at paged
      obtain ⟨shown, reached, extended, reaches, last⟩ := ih paged
      rw [Nat.add_right_comm] at reaches
      refine ⟨shown, reached, ?_, reaches.further closed, last⟩
      rw [extendLines, if_pos (offers.mpr closed), performed, pure_bind]
      exact extended

/-! ### What is shown in the end -/

/-- All that was asked for is shown just if no page ends with commits that are closed while more
of the history follows. -/
theorem Reaches.take_eq_iff {pages reached : Nat}
    (reaches : Reaches history pageSize 1 pages reached) (complete : Complete history)
    (positive : 0 < pageSize) :
    (history.take (reached * pageSize) = history.take (pages * pageSize) ∧
        (¬ Closed (history.take (reached * pageSize)) ↔ pages * pageSize < history.length)) ↔
      ∀ count, 1 ≤ count → count ≤ pages → count * pageSize < history.length →
        ¬ Closed (history.take (count * pageSize)) := by
  obtain ⟨least, most, before, last⟩ := reaches
  have whole {count : Nat} (all : history.length ≤ count * pageSize) :
      history.take (count * pageSize) = history := List.take_of_length_le all
  constructor
  · rintro ⟨same, offers⟩ count first within less
    rcases Nat.lt_or_ge count reached with early | late
    · exact before count first early
    · -- More follows what is shown, so as many pages are shown as were asked for.
      have shown : reached * pageSize < history.length :=
        Nat.lt_of_le_of_lt (Nat.mul_le_mul_right pageSize late) less
      have sizes := congrArg List.length same
      rw [List.length_take, List.length_take] at sizes
      have asked : reached * pageSize = pages * pageSize := by omega
      obtain rfl := Nat.eq_of_mul_eq_mul_right positive asked
      obtain rfl := Nat.le_antisymm late within
      exact offers.mpr less
  · intro missing
    rcases last with rfl | closed
    · refine ⟨rfl, fun more => ?_, missing reached least (Nat.le_refl reached)⟩
      by_contra all
      rw [whole (Nat.not_lt.mp all)] at more
      exact more complete.closed
    · have all : history.length ≤ reached * pageSize := by
        by_contra more
        exact missing reached least most (Nat.not_le.mp more) closed
      have beyond := Nat.le_trans all (Nat.mul_le_mul_right pageSize most)
      rw [whole all, whole beyond]
      exact ⟨rfl, iff_of_false (not_not.mpr complete.closed) (Nat.not_lt.mpr beyond)⟩

/-- The repository that a session is opened with is selected. -/
theorem selectedRepository?_openSession (settings : HistorySettings) (repository : Repository) :
    (CommandLine.Program.openSession settings repository).world.store.selectedRepository? =
      some repository := by
  set store := (CommandLine.Program.openSession settings repository).world.store with opened
  have found : store.repositories.get? repository.id = some repository := by
    simp [opened, CommandLine.Program.openSession, Edit.apply, World.reselect, World.publish,
      Store.add]
  have tracked : store.isTracked repository.id = true := by
    rw [Store.isTracked, Table.contains, found]
    rfl
  have active : store.active = some repository.id := rfl
  have chosen : store.chosen = none := rfl
  rw [Store.selectedRepository?, Store.selected?, chosen, active, Option.filter_some, tracked]
  exact found

/-- What the rounds show of a complete history, from the first page on. -/
theorem exists_shown_showPages (settings : HistorySettings) (repository : Repository)
    (least : 1 ≤ settings.pageSize) (most : settings.pageSize ≤ 1000)
    (held : repository.source = some source) (complete : Complete history)
    (serves : Serves oracle source lineage history) {pages : Nat} (positive : 1 ≤ pages) :
    ∃ shown reached,
      (CommandLine.Program.openSession settings repository).showPages
          (fun question => (pure (oracle question) : m Reply)) pages = pure (.ok shown) ∧
      Reaches history settings.pageSize 1 pages reached ∧
      TreeLine.Shows repository.id shown.world.display.lines
        (history.take (reached * settings.pageSize))
        (¬ Closed (history.take (reached * settings.pageSize))) := by
  set start := CommandLine.Program.openSession settings repository
  have size : start.world.pageSize = settings.pageSize := by
    have clamped : start.world.pageSize = World.clampPageSize settings.pageSize := rfl
    rw [clamped, World.clampPageSize, World.minPageSize, World.maxPageSize]
    omega
  have rest : start.world.display = .resting [] := rfl
  obtain ⟨next, performed, first⟩ :=
    perform_refresh (m := m) held serves rest (selectedRepository?_openSession settings repository)
      (Gates.idleAt_none _) rfl
  have holds : next.world.Holds repository lineage settings.pageSize
      (history.take (1 * settings.pageSize)) := by
    rw [Nat.one_mul]
    exact size ▸ first
  have faultless : next.world.display.fault = none := by
    obtain ⟨pages, -, -, rest⟩ := holds.paged
    rw [rest]
    rfl
  obtain ⟨shown, reached, extended, reaches, last⟩ :=
    extendLines_of_holds (m := m) held serves complete (pages - 1) holds
  rw [Nat.add_sub_cancel' positive] at reaches
  refine ⟨shown, reached, ?_, reaches, last.shows complete (List.take_prefix _ history)⟩
  rw [showPages, performed, pure_bind]
  dsimp only
  rw [faultless]
  exact extended

/-- The pages of a complete history are shown up to the first one that ends with commits that are
closed under parents, or as many as were asked for; below them more is offered just if a parent is
missing. So as many pages as were asked for are shown, and more is offered as long as the history
goes on, just if no page ends so while the history goes on. -/
theorem shows_showPages (settings : HistorySettings) (repository : Repository)
    (least : 1 ≤ settings.pageSize) (most : settings.pageSize ≤ 1000)
    (held : repository.source = some source) (complete : Complete history)
    (serves : Serves oracle source lineage history) (pages : Nat) (positive : 1 ≤ pages) :
    ∃ shown reached,
      (CommandLine.Program.openSession settings repository).showPages
          (fun question => (pure (oracle question) : m Reply)) pages = pure (.ok shown) ∧
      Reaches history settings.pageSize 1 pages reached ∧
      TreeLine.Shows repository.id shown.world.display.lines
        (history.take (reached * settings.pageSize))
        (¬ Closed (history.take (reached * settings.pageSize))) ∧
      (TreeLine.Shows repository.id shown.world.display.lines
          (history.take (pages * settings.pageSize))
          (pages * settings.pageSize < history.length) ↔
        ∀ count, 1 ≤ count → count ≤ pages → count * settings.pageSize < history.length →
          ¬ Closed (history.take (count * settings.pageSize))) := by
  obtain ⟨shown, reached, performed, reaches, shows⟩ :=
    exists_shown_showPages (m := m) settings repository least most held complete serves positive
  refine ⟨shown, reached, performed, reaches, shows, ?_⟩
  rw [shows.iff]
  exact reaches.take_eq_iff complete least

/-- Of a complete history with only one root as many pages are shown as were asked for, and more is
offered as long as the history goes on. -/
theorem shows_showPages_of_rooted (settings : HistorySettings) (repository : Repository)
    (least : 1 ≤ settings.pageSize) (most : settings.pageSize ≤ 1000)
    (held : repository.source = some source) (complete : Complete history)
    (rooted : Commit.Rooted history) (serves : Serves oracle source lineage history)
    {pages : Nat} (positive : 1 ≤ pages) :
    ∃ shown,
      (CommandLine.Program.openSession settings repository).showPages
          (fun question => (pure (oracle question) : m Reply)) pages = pure (.ok shown) ∧
      TreeLine.Shows repository.id shown.world.display.lines
        (history.take (pages * settings.pageSize))
        (pages * settings.pageSize < history.length) := by
  obtain ⟨shown, reached, performed, reaches, shows⟩ :=
    exists_shown_showPages (m := m) settings repository least most held complete serves positive
  refine ⟨shown, performed, shows.iff.mpr ((reaches.take_eq_iff complete least).mpr ?_)⟩
  intro count first _ less
  exact complete.not_closed_take rooted (Nat.mul_pos first least) less

/-! ### A history with two roots -/

/-- What a source says that answers from a history. -/
def answering (history : List Commit) : Question → Reply
  | ⟨_, .lineage⟩ => .lineage (.ok (some sampleLineage))
  | ⟨_, .page _ limit skip⟩ => .page (.ok ((history.drop skip).take limit))
  | ⟨_, .changes _ _⟩ => .changes (.ok [])
  | ⟨_, .ancestor _⟩ => .ancestor none

theorem serves_answering (history : List Commit) :
    Serves (answering history) 0 sampleLineage history :=
  ⟨rfl, fun _ _ _ => rfl⟩

/-- A line of two commits, and below it a root that is not related to them. -/
def unrelatedLines : List Commit :=
  [Graph.bareCommit "b" ["a"] [], Graph.bareCommit "a" [] [], Graph.bareCommit "x" [] []]

/-- Pages of one commit, of all references. -/
def singly : HistorySettings := { HistorySettings.standard with pageSize := 1, scope := .all }

/-- Of three pages two are shown, and no more is offered. -/
theorem shows_showPages_unrelatedLines :
    1 ≤ singly.pageSize ∧ singly.pageSize ≤ 1000 ∧ sampleRepository.source = some 0 ∧
      Complete unrelatedLines ∧
      Serves (answering unrelatedLines) 0 sampleLineage unrelatedLines ∧ 1 ≤ 3 ∧
      ∃ shown,
        (CommandLine.Program.openSession singly sampleRepository).showPages
          (fun question => (pure (answering unrelatedLines question) : Id Reply)) 3 =
            pure (.ok shown) ∧
        TreeLine.Shows sampleRepository.id shown.world.display.lines (unrelatedLines.take 2)
          False := by
  have complete : Complete unrelatedLines := by decide
  have serves := serves_answering unrelatedLines
  obtain ⟨shown, reached, performed, reaches, shows, -⟩ :=
    shows_showPages (m := Id) singly sampleRepository (by decide) (by decide) rfl complete serves 3
      (by decide)
  have two : Reaches unrelatedLines singly.pageSize 1 3 2 := by
    refine ⟨by decide, by decide, fun count least less => ?_, Or.inr (by decide)⟩
    obtain rfl : count = 1 := by omega
    decide
  obtain rfl := reaches.unique two
  refine ⟨by decide, by decide, rfl, complete, serves, by decide, shown, performed, ?_⟩
  exact (TreeLine.Shows.congr (by decide)).mp shows

/-- The third commit is asked for, and it is neither shown nor offered. -/
theorem not_shows_unrelatedLines :
    Complete unrelatedLines ∧ Serves (answering unrelatedLines) 0 sampleLineage unrelatedLines ∧
      ∃ shown,
        (CommandLine.Program.openSession singly sampleRepository).showPages
          (fun question => (pure (answering unrelatedLines question) : Id Reply)) 3 =
            pure (.ok shown) ∧
        ¬ TreeLine.Shows sampleRepository.id shown.world.display.lines
          (unrelatedLines.take (3 * singly.pageSize))
          (3 * singly.pageSize < unrelatedLines.length) := by
  refine ⟨by decide, serves_answering unrelatedLines, _, rfl, fun shows => ?_⟩
  have shown := shows.filterMap_commit?
  revert shown
  decide

end CommitHistory.Session
