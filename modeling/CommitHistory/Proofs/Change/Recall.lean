/-
# What a memory of changes tells

A memory knows the lists of changes by keys that are made from a commit and a parent. As
long as no two of the pairs that are asked for share a key, whoever asks gets what the
source says to the very same pair, however many requests overlap and whatever has been
forgotten. As soon as two of them share a key, the list of one can be handed out for the
other.

## Main definitions

* `Answers` — what a source may say to a commit and a parent.
* `Recollection.Reached` — what requests can come to, in any order of their steps.
* `Transparent` — nobody can tell that there is a memory.

## Main results

* `ChangeMemory.eq_of_key_eq` — commits without a colon in their names share no key, unless a parent
  has the name of a missing one.
* `Transparent.of_injOn`, `Transparent.injOn` — keys have to tell the pairs apart.
* `Rehearsal.Stage.inquire_of_memory`, `Rehearsal.Stage.remember_changes` — a rehearsal asks for
  changes in the same steps.
* `transparent_iff_injOn`, `not_transparent_univ` — when nobody can tell, and that some can.
-/

import CommitHistory.Change.Recall
import CommitHistory.Proofs.Text.Cutting
import CommitHistory.Rehearsal.Stage
import Mathlib.Data.Set.Function

namespace CommitHistory

/-! ### Keys -/

namespace ChangeMemory

/-- The key of a pair of a commit and a parent. -/
def keyOf (pair : String × Option String) : String := key pair.1 pair.2

/-- A commit that can be read off its key: no colon is in its name, and its parent is not called as
a missing one. -/
def Legible (pair : String × Option String) : Prop :=
  ':' ∉ pair.1.toList ∧ pair.2 ≠ some "root"

theorem toList_keyOf (pair : String × Option String) :
    (keyOf pair).toList = pair.1.toList ++ ':' :: (pair.2.getD "root").toList := by
  simp [keyOf, key]

theorem eq_of_getD_eq {parent other : Option String} (named : parent ≠ some "root")
    (otherNamed : other ≠ some "root") (same : parent.getD "root" = other.getD "root") :
    parent = other := by
  cases parent with
  | none =>
    cases other with
    | none => rfl
    | some name => exact absurd (congrArg some same.symm) otherNamed
  | some name =>
    cases other with
    | none => exact absurd (congrArg some same) named
    | some _ => exact congrArg some same

/-- A legible pair is known by its key. -/
theorem eq_of_key_eq {pair other : String × Option String} (legible : Legible pair)
    (otherLegible : Legible other) (same : keyOf pair = keyOf other) : pair = other := by
  -- The first colon of a key ends the name of the commit.
  have cut := congrArg (Text.splitAtMost ':' 1) (congrArg String.toList same)
  rw [toList_keyOf, toList_keyOf, Text.splitAtMost_append legible.1,
    Text.splitAtMost_append otherLegible.1] at cut
  simp only [Text.splitAtMost, List.cons.injEq, String.toList_inj, and_true] at cut
  exact Prod.ext cut.1 (eq_of_getD_eq legible.2 otherLegible.2 cut.2)

end ChangeMemory

/-! ### What a cache holds -/

namespace RecencyCache

variable {κ α : Type} [DecidableEq κ] {cache : RecencyCache κ α} {key : κ} {value : α}
  {entry : κ × α}

theorem mem_of_find? (found : cache.find? key = some value) : (key, value) ∈ cache.entries := by
  obtain ⟨before, after, entries, -⟩ := List.lookup_eq_some_iff.mp found
  rw [entries]
  simp

/-- To make a key the most recent one adds nothing. -/
theorem mem_of_mem_touch (member : entry ∈ (cache.touch key).entries) :
    entry ∈ cache.entries := by
  unfold touch at member
  split at member
  next => exact member
  next value found =>
    obtain rfl | old := List.mem_cons.mp member
    · exact mem_of_find? found
    · exact List.mem_of_mem_filter old

/-- Only what was put is added. -/
theorem mem_of_mem_put (member : entry ∈ (cache.put key value).entries) :
    entry = (key, value) ∨ entry ∈ cache.entries :=
  (List.mem_cons.mp (List.mem_of_mem_take member)).imp_right List.mem_of_mem_filter

end RecencyCache

/-! ### The first step of a request -/

namespace Recall

variable {id : String} {parent : Option String} {memory : ChangeMemory} {changes : List Change}

/-- A request whose list is remembered is over, and its key is the most recent one. -/
theorem advance_look_of_found
    (found : memory.find? (ChangeMemory.key id parent) = some changes) :
    Recall.look.advance id parent memory none =
      some (memory.touch (ChangeMemory.key id parent), .done (.ok changes)) := by
  simp [advance, ChangeMemory.retrieve, found]

/-- A request whose list is not remembered goes on to ask. -/
theorem advance_look_of_missing (missing : memory.find? (ChangeMemory.key id parent) = none) :
    Recall.look.advance id parent memory none = some (memory, .asking) := by
  simp [advance, ChangeMemory.retrieve, missing]

end Recall

/-! ### Requests that overlap -/

/-- What a source may say to a commit and a parent. -/
abbrev Answers : Type := String → Option String → Except Fault (List Change) → Prop

/-- The lists of changes depend on the commit and the parent alone; a source may refuse at any
time. -/
def Answers.Settled (answers : Answers) : Prop :=
  ∀ id parent first second, answers id parent (.ok first) → answers id parent (.ok second) →
    first = second

/-- What requests for some pairs can come to while a source gives certain answers. The requests
begin and take their steps in any order. -/
inductive Recollection.Reached (pairs : Set (String × Option String)) (answers : Answers)
    (capacity : Nat) : Recollection → Prop
  | new : Reached pairs answers capacity (.new capacity)
  | ask {recollection : Recollection} {id : String} {parent : Option String}
      (reached : Reached pairs answers capacity recollection) (listed : (id, parent) ∈ pairs) :
      Reached pairs answers capacity (recollection.ask id parent)
  | advance {recollection next : Recollection} {number : Nat} {request : ChangeRequest}
      {reply : Option (Except Fault (List Change))}
      (reached : Reached pairs answers capacity recollection)
      (held : recollection.requests[number]? = some request)
      (told : ∀ fetched, reply = some fetched → answers request.id request.parent fetched)
      (advanced : recollection.advance number reply = some next) :
      Reached pairs answers capacity next

/-- Whoever asks for one of the pairs gets what the source says to this pair. -/
def Transparent (pairs : Set (String × Option String)) : Prop :=
  ∀ answers : Answers, answers.Settled → ∀ capacity recollection,
    Recollection.Reached pairs answers capacity recollection →
    ∀ request ∈ recollection.requests, ∀ result, request.stage = .done result →
      answers request.id request.parent result

variable {pairs : Set (String × Option String)} {answers : Answers} {capacity : Nat}
  {recollection next : Recollection}

/-- A request holds only what the source said to its own pair. -/
def Recall.Truthful (answers : Answers) (id : String) (parent : Option String) : Recall → Prop
  | .look | .asking => True
  | .keep changes => answers id parent (.ok changes)
  | .done result => answers id parent result

/-- All that is remembered is what the source said to one of the pairs. -/
def ChangeMemory.Truthful (pairs : Set (String × Option String)) (answers : Answers)
    (memory : ChangeMemory) : Prop :=
  ∀ entry ∈ memory.entries, ∃ pair ∈ pairs,
    keyOf pair = entry.1 ∧ answers pair.1 pair.2 (.ok entry.2)

/-- One step keeps to the truth if the keys tell the pairs apart. -/
theorem Recall.truthful_of_advance (apart : Set.InjOn ChangeMemory.keyOf pairs) {id : String}
    {parent : Option String} {memory memory' : ChangeMemory} {stage stage' : Recall}
    {reply : Option (Except Fault (List Change))} (listed : (id, parent) ∈ pairs)
    (remembered : memory.Truthful pairs answers) (holds : stage.Truthful answers id parent)
    (told : ∀ fetched, reply = some fetched → answers id parent fetched)
    (advanced : stage.advance id parent memory reply = some (memory', stage')) :
    memory'.Truthful pairs answers ∧ stage'.Truthful answers id parent := by
  unfold advance at advanced
  split at advanced
  next =>
    split at advanced
    next changes touched looked =>
      -- What is found under the key was learnt for a pair with this key, so for this pair.
      cases advanced
      obtain ⟨found, rfl⟩ := Prod.mk.inj looked
      obtain ⟨pair, known, same, said⟩ := remembered _ (RecencyCache.mem_of_find? found)
      obtain rfl := apart known listed same
      exact ⟨fun entry member => remembered entry (RecencyCache.mem_of_mem_touch member), said⟩
    next =>
      cases advanced
      exact ⟨remembered, trivial⟩
  next =>
    cases advanced
    exact ⟨remembered, told _ rfl⟩
  next =>
    cases advanced
    exact ⟨remembered, told _ rfl⟩
  next =>
    cases advanced
    refine ⟨fun entry member => ?_, holds⟩
    obtain rfl | old := RecencyCache.mem_of_mem_put member
    · exact ⟨(id, parent), listed, rfl, holds⟩
    · exact remembered entry old
  next => cases advanced

/-- All that is remembered and all that is handed out is what the source said to the pair. -/
structure Recollection.Truthful (pairs : Set (String × Option String)) (answers : Answers)
    (recollection : Recollection) : Prop where
  memory : recollection.memory.Truthful pairs answers
  listed : ∀ request ∈ recollection.requests, (request.id, request.parent) ∈ pairs
  requests : ∀ request ∈ recollection.requests,
    request.stage.Truthful answers request.id request.parent

theorem Recollection.Truthful.of_reached (apart : Set.InjOn ChangeMemory.keyOf pairs)
    (reached : Reached pairs answers capacity recollection) :
    recollection.Truthful pairs answers := by
  induction reached with
  | new =>
    constructor <;> intro _ member <;> cases member
  | @ask recollection id parent _ listed ih =>
    refine ⟨ih.memory, ?_, ?_⟩ <;> intro request member <;>
      obtain old | new := List.mem_append.mp member
    · exact ih.listed request old
    · obtain rfl := List.mem_singleton.mp new
      exact listed
    · exact ih.requests request old
    · obtain rfl := List.mem_singleton.mp new
      trivial
  | @advance recollection next number request reply _ held told advanced ih =>
    obtain ⟨_, held', advanced⟩ := Option.bind_eq_some_iff.mp advanced
    obtain ⟨⟨memory, stage⟩, stepped, made⟩ := Option.bind_eq_some_iff.mp advanced
    cases held.symm.trans held'
    cases made
    have member := List.mem_of_getElem? held
    obtain ⟨remembered, mine⟩ := Recall.truthful_of_advance apart (ih.listed request member)
      ih.memory (ih.requests request member) told stepped
    refine ⟨remembered, ?_, ?_⟩ <;> intro other member' <;>
      obtain old | rfl := List.mem_or_eq_of_mem_set member'
    · exact ih.listed other old
    · exact ih.listed request member
    · exact ih.requests other old
    · exact mine

/-- A memory whose keys tell the pairs apart goes unnoticed. -/
theorem Transparent.of_injOn (apart : Set.InjOn ChangeMemory.keyOf pairs) : Transparent pairs := by
  intro answers _ capacity recollection reached request member result finished
  have truthful := (Recollection.Truthful.of_reached apart reached).requests request member
  rw [finished] at truthful
  exact truthful

/-! ### Pairs that share a key -/

/-- A source that says of one pair that nothing was changed, and of others that something was. -/
def telling (pair : String × Option String) (id : String) (parent : Option String) :
    Except Fault (List Change) → Prop :=
  fun answer => answer = .ok (if (id, parent) = pair then [] else [⟨id, none, .added⟩])

theorem settled_telling (pair : String × Option String) : Answers.Settled (telling pair) := by
  intro id parent first second one other
  exact Except.ok.inj (one.trans other.symm)

/-- A request takes a step. -/
theorem Recollection.Reached.step (reached : Reached pairs answers capacity recollection)
    (number : Nat) (reply : Option (Except Fault (List Change))) {request : ChangeRequest}
    {memory : ChangeMemory} {stage : Recall}
    (held : recollection.requests[number]? = some request)
    (told : ∀ fetched, reply = some fetched → answers request.id request.parent fetched)
    (stepped : request.stage.advance request.id request.parent recollection.memory reply =
      some (memory, stage)) :
    Reached pairs answers capacity
      ⟨memory, recollection.requests.set number { request with stage }⟩ :=
  .advance reached held told (by simp [Recollection.advance, held, stepped])

/-- After one pair was asked for, another one with the same key is answered from the memory. -/
theorem exists_mistaken {pair other : String × Option String} (member : pair ∈ pairs)
    (otherMember : other ∈ pairs) (same : ChangeMemory.keyOf pair = ChangeMemory.keyOf other) :
    ∃ recollection, Recollection.Reached pairs (telling pair) 1 recollection ∧
      ⟨other.1, other.2, .done (.ok [])⟩ ∈ recollection.requests := by
  let memory : ChangeMemory := ⟨1, [(ChangeMemory.keyOf pair, [])]⟩
  have silent (id : String) (parent : Option String) (fetched : Except Fault (List Change))
      (none : Option.none = some fetched) : telling pair id parent fetched := nomatch none
  have told (fetched : Except Fault (List Change)) (said : some (.ok []) = some fetched) :
      telling pair pair.1 pair.2 fetched := by
    cases said
    exact (congrArg Except.ok (if_pos rfl)).symm
  have found : Recall.look.advance other.1 other.2 memory none =
      some (memory, .done (.ok [])) := by
    have key : ChangeMemory.key other.1 other.2 = ChangeMemory.keyOf pair := same.symm
    simp [Recall.advance, ChangeMemory.retrieve, RecencyCache.find?, RecencyCache.touch,
      RecencyCache.others, key, memory]
  have begun : Recollection.Reached pairs (telling pair) 1 _ := .ask .new member
  have looked := begun.step 0 none rfl (silent _ _) rfl
  have answered := looked.step 0 (some (.ok [])) rfl told rfl
  have kept := (answered.step 0 none rfl (silent _ _) rfl).ask otherMember
  exact ⟨_, kept.step 1 none rfl (silent _ _) found, List.mem_cons_of_mem _ List.mem_cons_self⟩

/-- A memory that goes unnoticed tells the pairs apart by their keys. -/
theorem Transparent.injOn (transparent : Transparent pairs) :
    Set.InjOn ChangeMemory.keyOf pairs := by
  intro pair member other otherMember same
  obtain ⟨recollection, reached, mistaken⟩ := exists_mistaken member otherMember same
  have said := transparent _ (settled_telling pair) 1 recollection reached _ mistaken _ rfl
  by_contra different
  have apart : ¬ (other.1, other.2) = pair := fun equal => different equal.symm
  simp [telling, apart] at said

/-! ### Requests come to an end -/

/-- How many steps a request takes at most. -/
def Recall.remaining : Recall → Nat
  | .look => 3
  | .asking => 2
  | .keep _ => 1
  | .done _ => 0

/-- Whatever the source says, a request that is not over gets nearer to its end. -/
theorem Recall.exists_advance (id : String) (parent : Option String) (memory : ChangeMemory)
    {stage : Recall} (under : 0 < stage.remaining) (fetched : Except Fault (List Change)) :
    ∃ reply memory' stage', (reply = none ∨ reply = some fetched) ∧
      stage.advance id parent memory reply = some (memory', stage') ∧
      stage'.remaining < stage.remaining := by
  cases stage with
  | look =>
    cases found : memory.find? (ChangeMemory.key id parent) with
    | none =>
      exact ⟨none, memory, .asking, Or.inl rfl, advance_look_of_missing found, by decide⟩
    | some changes =>
      exact ⟨none, _, .done (.ok changes), Or.inl rfl, advance_look_of_found found,
        Nat.zero_lt_succ 2⟩
  | asking =>
    cases fetched with
    | error fault => exact ⟨_, memory, .done (.error fault), Or.inr rfl, rfl, Nat.zero_lt_succ 1⟩
    | ok changes => exact ⟨_, memory, .keep changes, Or.inr rfl, rfl, Nat.lt_succ_self 1⟩
  | keep changes => exact ⟨none, _, .done (.ok changes), Or.inl rfl, rfl, Nat.zero_lt_succ 0⟩
  | done result => cases under

/-! ### Rehearsals -/

namespace Rehearsal.Stage

open Session

variable {stage : Stage} {number : Nat} {memory : ChangeMemory}

/-- A rehearsal looks into the memory of a source as a request does, and asks the player of the
source only if the request goes on to ask. -/
theorem inquire_of_memory (held : stage.sources[number]?.bind Source.memory = some memory)
    (task activity : Nat) (id : String) (parent : Option String) :
    (∃ touched result, Recall.look.advance id parent memory none = some (touched, .done result) ∧
      stage.inquire task activity ⟨number, .changes id parent⟩ =
        ({ stage with sources := stage.sources.modify number fun source =>
            { source with memory := some touched } }.deliver task activity (.changes result),
          .goesOn)) ∨
      (Recall.look.advance id parent memory none = some (memory, .asking) ∧
        stage.inquire task activity ⟨number, .changes id parent⟩ =
          stage.askPlayer task activity ⟨number, .changes id parent⟩) := by
  cases found : memory.find? (ChangeMemory.key id parent) with
  | some changes =>
    refine Or.inl ⟨_, .ok changes, Recall.advance_look_of_found found, ?_⟩
    simp [inquire, held, ChangeMemory.retrieve, found]
  | none =>
    refine Or.inr ⟨Recall.advance_look_of_missing found, ?_⟩
    simp [inquire, held, ChangeMemory.retrieve, found]

/-- A rehearsal remembers a reply as a request does, and a refusal leaves the memory alone. -/
theorem remember_changes (stage : Stage) (number : Nat) (id : String) (parent : Option String)
    (fetched : Except Fault (List Change)) :
    stage.remember ⟨number, .changes id parent⟩ (.changes fetched) =
      { stage with sources := stage.sources.modify number fun source =>
        { source with memory := source.memory.map fun memory =>
          match fetched with
          | .ok changes => (((Recall.keep changes).advance id parent memory none).map Prod.fst).getD
              memory
          | .error _ => memory } } := by
  cases fetched <;> rfl

end Rehearsal.Stage

/-! ### When nobody notices -/

/-- A memory goes unnoticed exactly if its keys tell apart the pairs that are asked for. They do so
if no commit has a colon in its name and no parent is called as a missing one. Whatever the keys
are, every request comes to an end when its source answers. -/
theorem transparent_iff_injOn (pairs : Set (String × Option String)) :
    (Transparent pairs ↔ Set.InjOn ChangeMemory.keyOf pairs) ∧
      ((∀ pair ∈ pairs, ChangeMemory.Legible pair) → Transparent pairs) ∧
      ∀ id parent memory (stage : Recall), 0 < stage.remaining → ∀ fetched,
        ∃ reply memory' stage', (reply = none ∨ reply = some fetched) ∧
          stage.advance id parent memory reply = some (memory', stage') ∧
          stage'.remaining < stage.remaining :=
  ⟨⟨Transparent.injOn, .of_injOn⟩,
    fun legible => .of_injOn fun _ member _ otherMember same =>
      ChangeMemory.eq_of_key_eq (legible _ member) (legible _ otherMember) same,
    fun id parent memory _ under fetched => Recall.exists_advance id parent memory under fetched⟩

/-- Two commits, one of them a merge, as they are asked for. -/
def samplePairs : Set (String × Option String) :=
  {("c3", some "c2"), ("c3", some "c1"), ("c1", none)}

theorem transparent_samplePairs :
    (∀ pair ∈ samplePairs, ChangeMemory.Legible pair) ∧ Transparent samplePairs ∧
      0 < Recall.look.remaining ∧
      ∃ reply memory stage, (reply = none ∨ reply = some (.ok [])) ∧
        Recall.look.advance "c3" (some "c2") (.make 1) reply = some (memory, stage) ∧
        stage.remaining < Recall.look.remaining := by
  obtain ⟨-, transparent, ends⟩ := transparent_iff_injOn samplePairs
  have legible : ∀ pair ∈ samplePairs, ChangeMemory.Legible pair := by
    simp [samplePairs, ChangeMemory.Legible]
  have under : 0 < Recall.look.remaining := by decide
  exact ⟨legible, transparent legible, under, ends "c3" (some "c2") (.make 1) .look under (.ok [])⟩

/-- Not every memory goes unnoticed: a parent that is called `root` is taken for a missing one. -/
theorem not_transparent_univ : ¬ Transparent Set.univ := by
  intro transparent
  have same := transparent.injOn (Set.mem_univ ("c1", some "root")) (Set.mem_univ ("c1", none)) rfl
  cases same

end CommitHistory
