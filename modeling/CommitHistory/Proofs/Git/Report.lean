/-
# What git reports

A dialogue with git asks for runs one after the other, and whatever comes of a run decides
how it goes on. Whether it fails can be told from its runs alone: the search for the lineage
fails just if a run does not start, and a page is missing just if the listing does not start,
is no success or cannot be read. In particular a run that a signal killed is no failure for
the search for the lineage; it counts as a run that found nothing.

## Main definitions

* `Git.Run`, `Git.Dialogue.Held` — the runs with which a dialogue comes to a value.
* `Git.Run.IsKilled`, `Git.Run.IsBroken` — runs that a signal killed, and runs after which a
  fetch cannot go on.
* `Git.Reports` — a dialogue that fails just if a run is broken.

## Main results

* `Git.Dialogue.held_of_run` — how a dialogue is held with a git that answers by its arguments.
* `Git.reports_lineage?`, `Git.reports_page` — the dialogues of a fetch fail just if a run is
  broken.
-/

import CommitHistory.Git.Source

namespace CommitHistory.Git

open Text

/-! ### Runs -/

/-- A run of git: the arguments that it was given, and how it ended. -/
structure Run where
  arguments : List String
  outcome : Outcome
deriving DecidableEq, Repr

namespace Run

/-- A run of a git that answers by the arguments. -/
def of (answer : List String → Outcome) (arguments : List String) : Run :=
  ⟨arguments, answer arguments⟩

/-- A signal killed the run. -/
def IsKilled (run : Run) : Prop := ∃ output errors, run.outcome = .ended none output errors

/-- The run ended with an exit code. -/
def HasCode (run : Run) : Prop :=
  ∃ code output errors, run.outcome = .ended (some code) output errors

/-- The run was to list commits. -/
def IsListing (run : Run) : Prop := subcommand run.arguments = "log"

/-- The commits that a run listed can be read. -/
def IsReadable (run : Run) : Prop :=
  ∃ code output errors commits, run.outcome = .ended code output errors ∧ isSuccess code = true ∧
    Log.parse (Utf8.decodeLossy output) = .ok commits

/-- The run did not start, or it was to list commits and they cannot be read. -/
def IsBroken (run : Run) : Prop :=
  (∃ reason, run.outcome = .notStarted reason) ∨ run.IsListing ∧ ¬ run.IsReadable

/-- A run does not start, is killed or ends with an exit code. -/
protected theorem cases (run : Run) :
    (∃ reason, run.outcome = .notStarted reason) ∨ run.IsKilled ∨ run.HasCode := by
  rw [IsKilled, HasCode]
  match run.outcome with
  | .notStarted reason => exact Or.inl ⟨reason, rfl⟩
  | .ended none output errors => exact Or.inr (Or.inl ⟨output, errors, rfl⟩)
  | .ended (some code) output errors => exact Or.inr (Or.inr ⟨code, output, errors, rfl⟩)

/-- A listing that a signal killed is broken. -/
theorem IsKilled.isBroken {run : Run} (killed : run.IsKilled) (listing : run.IsListing) :
    run.IsBroken := by
  refine Or.inr ⟨listing, ?_⟩
  rintro ⟨code, output, errors, commits, ended, success, -⟩
  obtain ⟨output', errors', dead⟩ := killed
  cases dead.symm.trans ended
  cases success

/-- The commits that a run listed can be read just if it was a success and what it wrote can be. -/
theorem isReadable_iff (arguments : List String) (code : Option Int)
    (output errors : List UInt8) :
    (Run.mk arguments (.ended code output errors)).IsReadable ↔
      isSuccess code = true ∧ ∃ commits, Log.parse (Utf8.decodeLossy output) = .ok commits := by
  constructor
  · rintro ⟨code', output', errors', commits, ended, success, parsed⟩
    cases ended
    exact ⟨success, commits, parsed⟩
  · rintro ⟨success, commits, parsed⟩
    exact ⟨code, output, errors, commits, rfl, success, parsed⟩

end Run

/-! ### Dialogues that are held -/

/-- A dialogue can be held with certain runs and come to a value. -/
inductive Dialogue.Held {α : Type} : Dialogue α → List Run → α → Prop
  | done (value : α) : Held (.done value) [] value
  | ask {arguments : List String} {next : Outcome → Dialogue α} {outcome : Outcome}
      {runs : List Run} {value : α} (rest : Held (next outcome) runs value) :
      Held (.ask arguments next) (⟨arguments, outcome⟩ :: runs) value

variable {α β : Type} {runs : List Run}

/-- A git that answers by the arguments holds every dialogue. -/
theorem Dialogue.held_of_run {answer : List String → Outcome} {dialogue : Dialogue α} {value : α}
    {asked : List (List String)} (ran : dialogue.run answer = (value, asked)) :
    dialogue.Held (asked.map (Run.of answer)) value := by
  induction dialogue generalizing asked with
  | done value =>
    cases ran
    exact .done value
  | ask arguments next ih =>
    cases ran
    exact .ask (ih (answer arguments) rfl)

theorem Dialogue.Held.of_bind {dialogue : Dialogue α} {next : α → Dialogue β} {value : β}
    (held : (dialogue.bind next).Held runs value) :
    ∃ first second between, runs = first ++ second ∧ dialogue.Held first between ∧
      (next between).Held second value := by
  induction dialogue generalizing runs with
  | done between => exact ⟨[], runs, between, rfl, .done between, held⟩
  | ask arguments continued ih =>
    cases held with
    | ask rest =>
      obtain ⟨first, second, between, rfl, one, two⟩ := ih _ rest
      exact ⟨_ :: first, second, between, rfl, .ask one, two⟩

/-- A dialogue that can fail is over with its first fault, or goes on. -/
theorem held_bind {exchange : Exchange α} {next : α → Exchange β} {answer : Except Fault β}
    (held : (exchange >>= next).run.Held runs answer) :
    ∃ first second between, runs = first ++ second ∧ exchange.run.Held first between ∧
      ((∃ fault, between = .error fault ∧ answer = .error fault ∧ second = []) ∨
        ∃ value, between = .ok value ∧ (next value).run.Held second answer) := by
  obtain ⟨first, second, between, rfl, one, two⟩ := Dialogue.Held.of_bind held
  refine ⟨first, second, between, rfl, one, ?_⟩
  cases between with
  | error fault =>
    cases two
    exact Or.inl ⟨fault, rfl, rfl, rfl⟩
  | ok value => exact Or.inr ⟨value, rfl, two⟩

/-! ### Faults and broken runs -/

/-- A dialogue that can fail fails just if one of its runs is broken. -/
def Reports (exchange : Exchange α) : Prop :=
  ∀ runs answer, exchange.run.Held runs answer →
    ((∃ fault, answer = .error fault) ↔ ∃ run ∈ runs, run.IsBroken)

theorem Reports.pure (value : α) : Reports (pure value : Exchange α) := by
  intro runs answer held
  cases held
  exact iff_of_false (fun ⟨_, other⟩ => nomatch other) (fun ⟨_, member, _⟩ => nomatch member)

theorem Reports.bind {exchange : Exchange α} {next : α → Exchange β} (first : Reports exchange)
    (second : ∀ value, Reports (next value)) : Reports (exchange >>= next) := by
  intro runs answer held
  obtain ⟨earlier, later, between, rfl, one, two⟩ := held_bind held
  have reported := first earlier between one
  obtain ⟨fault, rfl, rfl, rfl⟩ | ⟨value, rfl, two⟩ := two
  · rw [List.append_nil, ← reported]
    exact iff_of_true ⟨fault, rfl⟩ ⟨fault, rfl⟩
  · have none : ¬ ∃ run ∈ earlier, run.IsBroken := by
      rw [← reported]
      exact fun ⟨_, other⟩ => nomatch other
    rw [second value later answer two]
    simp only [List.mem_append, or_and_right, exists_or, none, false_or]

theorem Reports.map {exchange : Exchange α} (reports : Reports exchange) (change : α → β) :
    Reports (change <$> exchange) := by
  intro runs answer held
  obtain ⟨earlier, later, between, rfl, one, two⟩ := Dialogue.Held.of_bind held
  have reported := reports earlier between one
  cases between <;> cases two <;> rw [List.append_nil, ← reported] <;> simp

/-- A dialogue of a single run. -/
theorem Reports.of_run {exchange : Exchange α} {arguments : List String}
    {next : Outcome → Dialogue (Except Fault α)} (asks : exchange.run = .ask arguments next)
    (ends : ∀ outcome, ∃ answer, next outcome = .done answer ∧
      ((∃ fault, answer = .error fault) ↔ (Run.mk arguments outcome).IsBroken)) :
    Reports exchange := by
  intro runs answer held
  rw [asks] at held
  cases held with
  | @ask _ _ outcome _ _ rest =>
    obtain ⟨answer, last, broken⟩ := ends outcome
    rw [last] at rest
    cases rest
    simpa using broken

/-- A run that may fail fails just if it does not start. -/
theorem reports_attempt (program : String) {arguments : List String}
    (other : subcommand arguments ≠ "log") : Reports (attempt program arguments) := by
  refine .of_run rfl fun outcome => ?_
  cases outcome with
  | notStarted reason => exact ⟨_, rfl, iff_of_true ⟨_, rfl⟩ (Or.inl ⟨reason, rfl⟩)⟩
  | ended code output errors =>
    refine ⟨_, rfl, ?_⟩
    constructor
    · rintro ⟨_, fault⟩
      cases fault
    · rintro (⟨_, started⟩ | ⟨listing, -⟩)
      · cases started
      · exact absurd listing other

/-- A page is missing just if the run that lists it is broken. -/
theorem reports_page (program : String) (ids : List String) (limit skip : Nat) :
    Reports (page program ids limit skip) := by
  refine .of_run rfl fun outcome => ?_
  have listing : (Run.mk (pageArguments ids limit skip) outcome).IsListing := rfl
  cases outcome with
  | notStarted reason => exact ⟨_, rfl, iff_of_true ⟨_, rfl⟩ (Or.inl ⟨reason, rfl⟩)⟩
  | ended code output errors =>
    have started : ¬ ∃ reason, Outcome.ended code output errors = .notStarted reason := by
      rintro ⟨_, ⟨⟩⟩
    rw [Run.IsBroken, or_iff_right started, and_iff_right listing, Run.isReadable_iff]
    dsimp only [Dialogue.bind, ExceptT.bindCont]
    cases isSuccess code with
    | false => exact ⟨_, rfl, iff_of_true ⟨_, rfl⟩ (by simp)⟩
    | true =>
      simp only [if_true, pure, ExceptT.pure, ExceptT.mk, Dialogue.bind, ExceptT.bindCont]
      cases Log.parse (Utf8.decodeLossy output) with
      | ok commits => exact ⟨.ok commits, rfl, by simp⟩
      | error flaw => exact ⟨.error flaw.fault, rfl, by simp⟩

theorem reports_revision? (program reference : String) : Reports (revision? program reference) :=
  (reports_attempt program (by simp [subcommand])).bind fun found => .pure (found.map String.ofList)

theorem reports_reference (program : String) (id : List Char) : Reports (reference program id) :=
  (reports_revision? program (String.ofList id)).bind fun _ => .pure _

theorem reports_followed? (program branch : String) : Reports (followed? program branch) := by
  refine (reports_attempt program (by simp [subcommand])).bind fun found => ?_
  cases found with
  | none => exact .pure none
  | some id =>
    dsimp only
    split
    · exact (reports_reference program id).map some
    · exact .pure none

theorem reports_base? (program branch : String) : Reports (base? program branch) := by
  refine (reports_attempt program (by simp [subcommand])).bind fun remote => ?_
  cases remote with
  | none => exact .pure none
  | some remote =>
    dsimp only
    split
    · exact .pure none
    · refine (reports_attempt program (by simp [subcommand])).bind fun target => ?_
      cases target with
      | none => exact .pure none
      | some target =>
        dsimp only
        split
        · exact .pure none
        · exact (reports_reference program target).map some

/-- The search for the lineage fails just if a run does not start. -/
theorem reports_lineage? (program : String) : Reports (lineage? program) := by
  refine (reports_attempt program (by simp [subcommand])).bind fun head => ?_
  cases head with
  | none => exact .pure none
  | some head =>
    refine (reports_revision? program "HEAD").bind fun revision => ?_
    cases revision with
    | none => exact .pure none
    | some revision =>
      exact (reports_followed? program _).bind fun _ => (reports_base? program _).bind fun _ =>
        .pure _

end CommitHistory.Git
