/-
# The stage of a rehearsal

A rehearsal plays a session with sources that are known beforehand, one task at a time.
A task goes on until it really has to wait: for a turnstile, for a notice, for a permit
of a scripted source, or for a run of git. Whoever can go on again is served first come
first served, and runs of git end, one by one, only when nobody else can go on.

## Main definitions

* `Script`, `Outcome` — what a task does, and what comes of it.
* `Stage` — the session, its sources and the tasks.
* `Stage.perform` — starts a task and lets everybody go on as far as possible.
-/

import CommitHistory.Change.Memory
import CommitHistory.Git.Launch
import CommitHistory.Git.Source
import CommitHistory.Rehearsal.ScriptedSource
import CommitHistory.Session.Activity

namespace CommitHistory.Rehearsal

open Session

/-- What answers the queries of a source. -/
inductive Player where
  | scripted (source : ScriptedSource)
  /-- A git program that runs in a directory. -/
  | git (program directory : String)

/-- A source, which may remember changes. -/
structure Source where
  player : Player
  memory : Option ChangeMemory

/-- What a task can do. -/
inductive Script where
  | call (call : Call)
  /-- Follows the notices from now on, in a task of its own. -/
  | follow
  /-- Opens the line with an index, as a line of another repository if one is named. -/
  | openLine (index : Nat) (as : Option RepositoryId)
  /-- Asks the source of a repository directly. -/
  | ask (repository : Repository) (query : Query)
  | lines
  | line (index : Nat)
  | memorySize (source : Option Nat)
  | setLineage (source : Nat) (lineage : Option Lineage)
  | setCommits (source : Nat) (commits : List Commit)
  | setFailing (source : Nat) (kinds : List Query.Kind)
  | setGated (source : Nat) (kinds : List Query.Kind)
  | release (source : Nat) (count : Nat)
  | say (text : String)

/-- What comes of what a task does. -/
inductive Outcome where
  | result (result : Result)
  | started
  | noSource
  | noLine
  | lines (lines : List TreeLine)
  | line (line : TreeLine)
  | memorySize (size : Option Nat)
  | nothing
  | said (text : String)

/-- An answer that a task waits for. -/
inductive Inquiry where
  /-- A scripted source is to answer, as soon as there is a permit. -/
  | scripted (question : Question)
  /-- A run of git is under way. -/
  | git (question : Question) (dialogue : Git.Dialogue Reply)

/-- A task: what is left to do, what came of the rest in reverse order, the activity under way
and the answer that it waits for. -/
structure Task where
  scripts : List Script
  outcomes : List Outcome
  activity : Option Nat
  inquiry : Option Inquiry

/-- A session with its sources and tasks. -/
structure Stage where
  session : Session
  sources : List Source
  git : Git.Installation
  tasks : List Task
  /-- The tasks that can go on, in the order in which they will. -/
  ready : List Nat
  /-- The tasks that wait for a turnstile or a notice. -/
  blocked : List Nat
  /-- The tasks that wait for a run of git. -/
  running : List Nat
  /-- The queries to scripted sources so far, the last one first. -/
  queries : List Question

namespace Stage

/-- Changes a task. -/
def alterTask (stage : Stage) (task : Nat) (change : Task → Task) : Stage :=
  { stage with tasks := stage.tasks.modify task change }

/-- Notes what came of what a task did. -/
def conclude (stage : Stage) (task : Nat) (outcome : Outcome) : Stage :=
  stage.alterTask task fun t =>
    { t with outcomes := outcome :: t.outcomes, activity := none, inquiry := none }

/-- The scripted source with a number. -/
def scripted? (stage : Stage) (number : Nat) : Option ScriptedSource :=
  match stage.sources[number]?.map Source.player with
  | some (.scripted source) => some source
  | _ => none

/-- Replaces a scripted source. -/
def setScripted (stage : Stage) (number : Nat) (source : ScriptedSource) : Stage :=
  { stage with sources :=
      stage.sources.modify number fun known => { known with player := .scripted source } }

/-- Changes a scripted source. -/
def alterScripted (stage : Stage) (number : Nat)
    (change : ScriptedSource → ScriptedSource) : Stage :=
  match stage.scripted? number with
  | some source => stage.setScripted number (change source)
  | none => stage

/-- Whether the activity of a task can go on by itself. -/
def canAdvance (stage : Stage) (task : Nat) : Bool :=
  match stage.tasks[task]?.bind Task.activity with
  | none => false
  | some activity => (stage.session.advance activity none).isSome

/-- Whether the activity of a task follows notices. -/
def isFollowing (stage : Stage) (task : Nat) : Bool :=
  match (stage.tasks[task]?.bind Task.activity).bind (stage.session.activities[·]?) with
  | some (.follow (.reading _)) => true
  | _ => false

/-- Replaces the session. Those who waited and can go on become ready, readers of notices
first. -/
def setSession (stage : Stage) (session : Session) : Stage :=
  let changed := { stage with session }
  let woken := stage.blocked.filter changed.canAdvance
  if woken.isEmpty then changed
  else
    { changed with
      blocked := stage.blocked.filter fun task => !changed.canAdvance task
      ready := stage.ready ++ woken.filter changed.isFollowing ++
        woken.filter fun task => !changed.isFollowing task }

/-- Remembers the changes in a reply. -/
def remember (stage : Stage) (question : Question) (reply : Reply) : Stage :=
  match question.query, reply with
  | .changes id parent, .changes fetched =>
    { stage with sources := stage.sources.modify question.source fun source =>
        { source with memory := source.memory.map fun memory => memory.learn id parent fetched } }
  | _, _ => stage

/-- Hands a reply to the activity of a task. -/
def deliver (stage : Stage) (task activity : Nat) (reply : Reply) : Stage :=
  let answered := stage.alterTask task fun t => { t with inquiry := none }
  match answered.session.advance activity (some reply) with
  | some session => answered.setSession session
  | none => answered

/-- Whether a task goes on after a step. -/
inductive Progress where
  | goesOn
  | stops

/-- Goes on with a dialogue: a run is started, or the reply is there. -/
def converse (stage : Stage) (task activity : Nat) (question : Question) :
    Git.Dialogue Reply → Stage × Progress
  | .done reply => (((stage.remember question reply).deliver task activity reply), .goesOn)
  | dialogue =>
    let waiting := stage.alterTask task fun t => { t with inquiry := some (.git question dialogue) }
    ({ waiting with running := waiting.running ++ [task] }, .stops)

/-- A scripted source answers. -/
def answerScripted (stage : Stage) (task activity : Nat) (question : Question)
    (source : ScriptedSource) : Stage × Progress :=
  let reply := source.reply question.query
  ((stage.remember question reply).deliver task activity reply, .goesOn)

/-- Asks the player of a source. -/
def askPlayer (stage : Stage) (task activity : Nat) (question : Question) : Stage × Progress :=
  match stage.sources[question.source]?.map Source.player with
  | none => (stage, .stops)
  | some (.git program _) =>
    stage.converse task activity question (Git.reply program question.query)
  | some (.scripted source) =>
    let noted := { stage with queries := question :: stage.queries }
    if question.query.kind ∈ source.gated then
      let entered := source.enter task
      let changed := noted.setScripted question.source entered.1
      if entered.2 then changed.answerScripted task activity question entered.1
      else
        (changed.alterTask task fun t => { t with inquiry := some (.scripted question) }, .stops)
    else noted.answerScripted task activity question source

/-- Asks a source, which may remember the answer. -/
def inquire (stage : Stage) (task activity : Nat) (question : Question) : Stage × Progress :=
  match stage.sources[question.source]?.bind Source.memory, question.query with
  | some memory, .changes id parent =>
    match memory.retrieve id parent with
    | (some changes, touched) =>
      let sources := stage.sources.modify question.source fun source =>
        { source with memory := some touched }
      let remembered := { stage with sources }
      (remembered.deliver task activity (.changes (.ok changes)), .goesOn)
    | (none, _) => stage.askPlayer task activity question
  | _, _ => stage.askPlayer task activity question

/-- Adds a task that is ready. -/
def addTask (stage : Stage) (scripts : List Script) : Stage :=
  { stage with
    tasks := stage.tasks ++ [{ scripts, outcomes := [], activity := none, inquiry := none }]
    ready := stage.ready ++ [stage.tasks.length] }

/-- A task starts a call. -/
def startCall (stage : Stage) (task : Nat) (call : Call) : Stage :=
  let assigned := stage.alterTask task fun t =>
    { t with activity := some stage.session.activities.length }
  { assigned with session := stage.session.start call }

/-- A task takes up what it does next. -/
def takeUp (stage : Stage) (task : Nat) : Script → Stage
  | .call call => stage.startCall task call
  | .follow =>
    (stage.addTask [.call (.follow (.live stage.session.world.notices.length))]).conclude task
      .started
  | .openLine index as =>
    match stage.session.world.display.lines[index]? with
    | none => stage.conclude task .noLine
    | some line => stage.startCall task (.openLine (line.relabel (as.getD line.repository)))
  | .ask repository query =>
    match repository.source with
    | none => stage.conclude task .noSource
    | some source => stage.startCall task (.ask { source, query })
  | .lines => stage.conclude task (.lines stage.session.world.display.lines)
  | .line index =>
    stage.conclude task <|
      match stage.session.world.display.lines[index]? with
      | none => .noLine
      | some line => .line line
  | .memorySize source =>
    stage.conclude task
      (.memorySize ((source.bind (stage.sources[·]?)).bind fun source =>
        source.memory.map RecencyCache.size))
  | .setLineage number lineage =>
    (stage.alterScripted number fun source => { source with lineage }).conclude task .nothing
  | .setCommits number commits =>
    (stage.alterScripted number fun source => { source with commits }).conclude task .nothing
  | .setFailing number failing =>
    (stage.alterScripted number fun source => { source with failing }).conclude task .nothing
  | .setGated number gated =>
    (stage.alterScripted number fun source => { source with gated }).conclude task .nothing
  | .release number count =>
    match stage.scripted? number with
    | none => stage.conclude task .nothing
    | some source =>
      let released := source.release count
      let changed := stage.setScripted number released.1
      ({ changed with ready := changed.ready ++ released.2 }).conclude task .nothing
  | .say text => stage.conclude task (.said text)

/-- One step of a task whose activity is under way. -/
def stepActivity (stage : Stage) (task activity : Nat) : Stage × Progress :=
  match stage.session.result? activity with
  | some result => (stage.conclude task (.result result), .goesOn)
  | none =>
    match stage.session.question? activity with
    | some question => stage.inquire task activity question
    | none =>
      match stage.session.advance activity none with
      | some session => (stage.setSession session, .goesOn)
      | none => ({ stage with blocked := stage.blocked ++ [task] }, .stops)

/-- One step of a task. -/
def step (stage : Stage) (task : Nat) : Stage × Progress :=
  match stage.tasks[task]? with
  | none => (stage, .stops)
  | some state =>
    match state.activity, state.inquiry, state.scripts with
    -- A permit has come, or a run of git has ended.
    | some activity, some (.scripted question), _ =>
      match stage.scripted? question.source with
      | some source => stage.answerScripted task activity question source
      | none => (stage, .stops)
    | some activity, some (.git question (.ask arguments next)), _ =>
      match stage.sources[question.source]?.map Source.player with
      | some (.git program directory) =>
        stage.converse task activity question (next (stage.git.run program directory arguments))
      | _ => (stage, .stops)
    | some activity, _, _ => stage.stepActivity task activity
    | none, _, [] => (stage, .stops)
    | none, _, script :: rest =>
      ((stage.alterTask task fun t => { t with scripts := rest }).takeUp task script, .goesOn)

/-- Lets a task go on until it has to wait or is over, or until the bound is reached. -/
def goOn : Nat → Nat → Stage → Stage
  | 0, _, stage => stage
  | bound + 1, task, stage =>
    match stage.step task with
    | (next, .goesOn) => goOn bound task next
    | (next, .stops) => next

/-- How many steps a task may take before others go on, and how many tasks may go on before a
rehearsal is given up. No script of reasonable length reaches it. -/
def patience : Nat := 1000000

/-- Lets everybody go on as far as possible, or until the bound is reached. -/
def settle : Nat → Stage → Stage
  | 0, stage => stage
  | bound + 1, stage =>
    -- A run of git ends only when nobody else can go on.
    match stage.ready, stage.running with
    | task :: rest, _ => settle bound (goOn patience task { stage with ready := rest })
    | [], task :: rest => settle bound (goOn patience task { stage with running := rest })
    | [], [] => stage

/-- Starts a task and lets everybody go on as far as possible. -/
def perform (stage : Stage) (scripts : List Script) : Stage :=
  (stage.addTask scripts).settle patience

/-- What came of all that a task did, once it is over. -/
def outcomes? (stage : Stage) (task : Nat) : Option (List Outcome) :=
  match stage.tasks[task]? with
  | some { scripts := [], outcomes, activity := none, .. } => some outcomes.reverse
  | _ => none

end Stage

end CommitHistory.Rehearsal
