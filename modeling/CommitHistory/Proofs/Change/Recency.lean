/-
# Which changes are remembered

Calls that come one after the other leave the keys that were used last in the memory, each with
the list that was fetched for it last. A key is used by every call that does not fail, whether
the list was remembered or had to be fetched. Only calls for other keys ask the source, and a
call that fails leaves the memory as it was. However calls overlap, no more lists are remembered
than there is room for.

## Main definitions

* `Recall.Ends` — what comes of a request while no other one takes a step.
* `ChangeMemory.After` — the memory after calls that came one after the other.
* `ChangeCall.lastKeys`, `ChangeCall.lastFetched?` — what calls leave behind, told by them alone.

## Main results

* `RecencyCache.keys_put` — the keys of a cache are the last different ones.
* `Recall.ends_look_iff` — how a call goes.
* `ChangeMemory.exact_of_after` — the memory holds the keys that were used last, and no more.
-/

import CommitHistory.Proofs.Change.Recall

namespace CommitHistory

/-! ### The last different keys -/

section Different

variable {κ : Type} [DecidableEq κ] {uses : List κ} {key : κ}

/-- Keys that are left out are left out of the different ones. -/
theorem eraseDups_filter (p : κ → Bool) (uses : List κ) :
    (uses.filter p).eraseDups = uses.eraseDups.filter p := by
  induction size : uses.length using Nat.strong_induction_on generalizing uses with
  | _ count ih =>
    cases uses with
    | nil => rfl
    | cons first rest =>
      have shorter : (rest.filter fun other => !other == first).length < count := by
        have le := List.length_filter_le (fun other => !other == first) rest
        rw [List.length_cons] at size
        omega
      have rest := ih _ shorter _ rfl
      by_cases kept : p first = true
      · rw [List.filter_cons_of_pos kept, List.eraseDups_cons, List.eraseDups_cons,
          List.filter_cons_of_pos kept, ← rest, List.filter_filter, List.filter_filter]
        simp only [Bool.and_comm]
      · rw [List.filter_cons_of_neg kept, List.eraseDups_cons, List.filter_cons_of_neg kept, ← rest,
          List.filter_filter]
        congr 1
        refine List.filter_congr fun other _ => ?_
        -- A key that is kept is another one than the first.
        by_cases same : other = first
        · simp [same, kept]
        · simp [same]

/-- A key that is used anew is the first of the different ones. -/
theorem eraseDups_cons_eq (key : κ) (uses : List κ) :
    (key :: uses).eraseDups = key :: uses.eraseDups.filter (· ≠ key) := by
  rw [List.eraseDups_cons, eraseDups_filter]
  simp only [beq_eq_decide, decide_not]

theorem nodup_eraseDups (uses : List κ) : uses.eraseDups.Nodup := by
  induction uses with
  | nil => exact List.nodup_nil
  | cons first rest ih =>
    rw [eraseDups_cons_eq, List.nodup_cons]
    exact ⟨by simp, ih.filter _⟩

/-- Of different keys at most one is left out. -/
theorem take_filter_take (different : uses.Nodup) (room : Nat) :
    ((uses.take (room + 1)).filter (· ≠ key)).take room = (uses.filter (· ≠ key)).take room := by
  induction uses generalizing room with
  | nil => simp
  | cons first rest ih =>
    obtain ⟨new, different⟩ := List.nodup_cons.mp different
    rw [List.take_succ_cons]
    by_cases same : first = key
    · -- The key is not among the rest.
      subst same
      have absent (keys : List κ) (sub : keys ⊆ rest) : keys.filter (· ≠ first) = keys := by
        refine List.filter_eq_self.mpr fun other member => ?_
        simpa using ne_of_mem_of_not_mem (sub member) new
      rw [List.filter_cons_of_neg (by simp), List.filter_cons_of_neg (by simp),
        absent _ (List.take_subset _ _), absent _ (List.Subset.refl _), List.take_take,
        Nat.min_self]
    · rw [List.filter_cons_of_pos (by simpa using same), List.filter_cons_of_pos (by simpa using same)]
      cases room with
      | zero => rfl
      | succ room => rw [List.take_succ_cons, List.take_succ_cons, ih different]

end Different

/-! ### Caches by recency -/

namespace RecencyCache

variable {κ α : Type} [DecidableEq κ] {cache : RecencyCache κ α} {key : κ} {value : α}
  {uses : List κ}

/-- The keys of a cache, the most recent one first. -/
def keys (cache : RecencyCache κ α) : List κ := cache.entries.map Prod.fst

/-- There is room for one value, and there are no more than there is room for. -/
structure Bounded (cache : RecencyCache κ α) : Prop where
  room : 0 < cache.capacity
  size : cache.size ≤ cache.capacity

omit [DecidableEq κ] in
theorem bounded_make (capacity : Nat) : (make capacity : RecencyCache κ α).Bounded where
  room := Nat.lt_of_lt_of_le Nat.zero_lt_one (Nat.le_max_right capacity 1)
  size := Nat.zero_le _

theorem Bounded.put (bounded : cache.Bounded) (key : κ) (value : α) :
    (cache.put key value).Bounded where
  room := bounded.room
  size := List.length_take_le _ _

theorem mem_keys_iff : key ∈ cache.keys ↔ (cache.find? key).isSome := by
  simp [keys, find?, List.lookup_isSome_iff]

theorem keys_others (cache : RecencyCache κ α) (key : κ) :
    (cache.others key).map Prod.fst = cache.keys.filter (· ≠ key) := by
  rw [keys, others, List.filter_map]
  rfl

/-- To make a known key the most recent one is to put its value again. -/
theorem touch_eq_put (bounded : cache.Bounded) (found : cache.find? key = some value) :
    cache.touch key = cache.put key value := by
  have fewer : (cache.others key).length < cache.entries.length :=
    List.length_filter_lt_length_iff_exists.mpr ⟨(key, value), mem_of_find? found, by simp⟩
  have fits : ((key, value) :: cache.others key).length ≤ cache.capacity :=
    Nat.le_trans fewer bounded.size
  rw [touch, found, put, List.take_of_length_le fits]

/-- The keys of a cache are the last different ones if the key that is put is the last use. -/
theorem keys_put (bounded : cache.Bounded) (recent : cache.keys = uses.eraseDups.take cache.capacity)
    (key : κ) (value : α) :
    (cache.put key value).keys = (key :: uses).eraseDups.take cache.capacity := by
  obtain ⟨room, capacity⟩ : ∃ room, cache.capacity = room + 1 :=
    ⟨cache.capacity - 1, (Nat.sub_add_cancel bounded.room).symm⟩
  rw [keys, put, List.map_take, List.map_cons, keys_others, recent, eraseDups_cons_eq, capacity,
    List.take_succ_cons, List.take_succ_cons, take_filter_take (nodup_eraseDups uses)]

end RecencyCache

/-! ### One call -/

/-- A request goes on from a stage to its end, and no other one takes a step meanwhile. The source
says something if it is asked. -/
inductive Recall.Ends (id : String) (parent : Option String) :
    ChangeMemory → Recall → Option (Except Fault (List Change)) → ChangeMemory →
      Except Fault (List Change) → Prop
  | done (memory : ChangeMemory) (result : Except Fault (List Change)) :
      Ends id parent memory (.done result) none memory result
  | alone {memory next last : ChangeMemory} {stage stage' : Recall}
      {reply : Option (Except Fault (List Change))} {result : Except Fault (List Change)}
      (stepped : stage.advance id parent memory none = some (next, stage'))
      (rest : Ends id parent next stage' reply last result) :
      Ends id parent memory stage reply last result
  | told {memory next last : ChangeMemory} {stage stage' : Recall}
      {fetched result : Except Fault (List Change)}
      (stepped : stage.advance id parent memory (some fetched) = some (next, stage'))
      (rest : Ends id parent next stage' none last result) :
      Ends id parent memory stage (some fetched) last result

namespace Recall

variable {id : String} {parent : Option String} {memory last : ChangeMemory}
  {reply : Option (Except Fault (List Change))} {result : Except Fault (List Change)}

theorem ends_done_iff {given : Except Fault (List Change)} :
    Ends id parent memory (.done given) reply last result ↔
      reply = none ∧ last = memory ∧ result = given := by
  constructor
  · intro ends
    cases ends with
    | done => exact ⟨rfl, rfl, rfl⟩
    | alone stepped => cases stepped
    | told stepped => cases stepped
  · rintro ⟨rfl, rfl, rfl⟩
    exact .done _ _

theorem ends_keep_iff {changes : List Change} :
    Ends id parent memory (.keep changes) reply last result ↔
      reply = none ∧ last = memory.learn id parent (.ok changes) ∧ result = .ok changes := by
  constructor
  · intro ends
    cases ends with
    | alone stepped rest =>
      cases stepped
      exact ends_done_iff.mp rest
    | told stepped => cases stepped
  · rintro ⟨rfl, rfl, rfl⟩
    exact .alone rfl (.done _ _)

/-- A source that is asked says something, and what it says without a fault is kept. -/
theorem ends_asking_iff :
    Ends id parent memory .asking reply last result ↔
      reply = some result ∧ last = memory.learn id parent result := by
  constructor
  · intro ends
    cases ends with
    | alone stepped => cases stepped
    | @told _ _ _ _ _ fetched _ stepped rest =>
      cases fetched with
      | error fault =>
        cases stepped
        obtain ⟨-, rfl, rfl⟩ := ends_done_iff.mp rest
        exact ⟨rfl, rfl⟩
      | ok changes =>
        cases stepped
        obtain ⟨-, rfl, rfl⟩ := ends_keep_iff.mp rest
        exact ⟨rfl, rfl⟩
  · rintro ⟨rfl, rfl⟩
    cases result with
    | error fault => exact .told rfl (.done _ _)
    | ok changes => exact .told rfl (ends_keep_iff.mpr ⟨rfl, rfl, rfl⟩)

/-- A call finds its list and makes its key the most recent one, or asks the source and learns what
it says. -/
theorem ends_look_iff :
    Ends id parent memory .look reply last result ↔
      (∃ changes, memory.find? (ChangeMemory.key id parent) = some changes ∧ reply = none ∧
        last = memory.touch (ChangeMemory.key id parent) ∧ result = .ok changes) ∨
      memory.find? (ChangeMemory.key id parent) = none ∧ reply = some result ∧
        last = memory.learn id parent result := by
  constructor
  · intro ends
    cases ends with
    | alone stepped rest =>
      cases found : memory.find? (ChangeMemory.key id parent) with
      | some changes =>
        rw [advance_look_of_found found] at stepped
        cases stepped
        obtain ⟨rfl, rfl, rfl⟩ := ends_done_iff.mp rest
        exact Or.inl ⟨changes, rfl, rfl, rfl, rfl⟩
      | none =>
        rw [advance_look_of_missing found] at stepped
        cases stepped
        exact Or.inr ⟨rfl, ends_asking_iff.mp rest⟩
    | told stepped => cases stepped
  · rintro (⟨changes, found, rfl, rfl, rfl⟩ | ⟨missing, rfl, rfl⟩)
    · exact .alone (advance_look_of_found found) (.done _ _)
    · exact .alone (advance_look_of_missing missing) (ends_asking_iff.mpr ⟨rfl, rfl⟩)

/-- A step of a request leaves the memory as it is, or puts a list under the key of the request. -/
theorem memory_of_advance {stage stage' : Recall} (bounded : memory.Bounded)
    (stepped : stage.advance id parent memory reply = some (last, stage')) :
    last = memory ∨ ∃ changes, last = memory.put (ChangeMemory.key id parent) changes := by
  unfold advance at stepped
  split at stepped
  next =>
    split at stepped
    next changes touched looked =>
      cases stepped
      obtain ⟨found, rfl⟩ := Prod.mk.inj looked
      exact Or.inr ⟨changes, RecencyCache.touch_eq_put bounded found⟩
    next =>
      cases stepped
      exact Or.inl rfl
  next =>
    cases stepped
    exact Or.inl rfl
  next =>
    cases stepped
    exact Or.inl rfl
  next changes =>
    cases stepped
    exact Or.inr ⟨changes, rfl⟩
  next => cases stepped

end Recall

/-! ### Calls one after the other -/

/-- A call that is over: what it asked for, what the source said if it was asked, and what came of
the call. -/
structure ChangeCall where
  id : String
  parent : Option String
  reply : Option (Except Fault (List Change))
  result : Except Fault (List Change)

namespace ChangeCall

/-- The key that a call looks for. -/
def key (call : ChangeCall) : String := ChangeMemory.key call.id call.parent

/-- The list that a call fetched. -/
def fetched? (call : ChangeCall) : Option (List Change) := call.reply.bind Except.toOption

/-- The keys of the calls that did not fail. Calls, and the keys that they use, are listed with the
last one first. -/
def uses (calls : List ChangeCall) : List String :=
  (calls.filter fun call => call.result.isOk).map key

/-- The last different keys that calls used, as many as there is room for. -/
def lastKeys (capacity : Nat) (calls : List ChangeCall) : List String :=
  (uses calls).eraseDups.take (max capacity 1)

/-- The list that was fetched for a key last. -/
def lastFetched? (calls : List ChangeCall) (key : String) : Option (List Change) :=
  calls.findSome? fun call => if call.key = key then call.fetched? else none

variable {call : ChangeCall} {calls : List ChangeCall}

theorem uses_cons_of_ok {changes : List Change} (succeeded : call.result = .ok changes) :
    uses (call :: calls) = call.key :: uses calls := by
  simp [uses, succeeded, Except.isOk, Except.toBool]

theorem uses_cons_of_error {fault : Fault} (failed : call.result = .error fault) :
    uses (call :: calls) = uses calls := by
  simp [uses, failed, Except.isOk, Except.toBool]

theorem lastFetched?_cons_of_none (nothing : call.fetched? = none) (key : String) :
    lastFetched? (call :: calls) key = lastFetched? calls key := by
  simp [lastFetched?, nothing]

theorem lastFetched?_cons_self {changes : List Change} (fetched : call.fetched? = some changes) :
    lastFetched? (call :: calls) call.key = some changes := by
  simp [lastFetched?, fetched]

theorem lastFetched?_cons_of_ne {key : String} (other : key ≠ call.key) :
    lastFetched? (call :: calls) key = lastFetched? calls key := by
  simp [lastFetched?, Ne.symm other]

end ChangeCall

namespace ChangeMemory

open ChangeCall

variable {capacity : Nat} {calls : List ChangeCall} {call : ChangeCall}
  {memory next : ChangeMemory}

/-- The memory after calls that came one after the other, the last one first in the list. The source
may say anything to each of them. -/
inductive After (capacity : Nat) : List ChangeCall → ChangeMemory → Prop
  | new : After capacity [] (.make capacity)
  | call {calls : List ChangeCall} {memory next : ChangeMemory} {call : ChangeCall}
      (before : After capacity calls memory)
      (ended : Recall.Ends call.id call.parent memory .look call.reply next call.result) :
      After capacity (call :: calls) next

/-- A memory has the last different keys that calls used, with the lists that were fetched for
them. -/
structure Holds (capacity : Nat) (calls : List ChangeCall) (memory : ChangeMemory) : Prop where
  room : memory.capacity = max capacity 1
  bounded : memory.Bounded
  keys : memory.keys = lastKeys capacity calls
  lists : ∀ entry ∈ memory.entries, lastFetched? calls entry.1 = some entry.2

/-- A list that is put under the key of a call is the last one for it, and its key the last use. -/
theorem Holds.put (holds : Holds capacity calls memory) {changes : List Change}
    (succeeded : call.result = .ok changes)
    (own : lastFetched? (call :: calls) call.key = some changes)
    (others : ∀ entry ∈ memory.entries,
      lastFetched? (call :: calls) entry.1 = lastFetched? calls entry.1) :
    Holds capacity (call :: calls) (memory.put call.key changes) where
  room := holds.room
  bounded := holds.bounded.put _ _
  keys := by
    have recent : memory.keys = (uses calls).eraseDups.take memory.capacity := by
      rw [holds.keys, lastKeys, holds.room]
    rw [RecencyCache.keys_put holds.bounded recent, lastKeys, uses_cons_of_ok succeeded,
      holds.room]
  lists entry member := by
    obtain rfl | old := RecencyCache.mem_of_mem_put member
    · exact own
    · rw [others entry old, holds.lists entry old]

theorem Holds.of_ends (holds : Holds capacity calls memory)
    (ended : Recall.Ends call.id call.parent memory .look call.reply next call.result) :
    Holds capacity (call :: calls) next := by
  obtain ⟨changes, found, silent, rfl, succeeded⟩ | ⟨missing, told, rfl⟩ :=
    Recall.ends_look_iff.mp ended
  · -- A remembered list was fetched by an earlier call.
    have nothing : call.fetched? = none := by rw [fetched?, silent]; rfl
    rw [RecencyCache.touch_eq_put holds.bounded found]
    refine holds.put succeeded ?_ fun entry _ => lastFetched?_cons_of_none nothing entry.1
    rw [lastFetched?_cons_of_none nothing]
    exact holds.lists _ (RecencyCache.mem_of_find? found)
  · cases result : call.result with
    | ok changes =>
      have fetched : call.fetched? = some changes := by rw [fetched?, told, result]; rfl
      refine holds.put result (lastFetched?_cons_self fetched) fun entry old => ?_
      -- The key is new, so the call fetched nothing for any other entry.
      refine lastFetched?_cons_of_ne fun same => ?_
      have known : call.key ∈ memory.keys := same ▸ List.mem_map_of_mem old
      rw [RecencyCache.mem_keys_iff, ChangeCall.key, missing] at known
      cases known
    | error fault =>
      have nothing : call.fetched? = none := by rw [fetched?, told, result]; rfl
      refine ⟨holds.room, holds.bounded, ?_, fun entry old => ?_⟩
      · rw [lastKeys, uses_cons_of_error result]
        exact holds.keys
      · rw [lastFetched?_cons_of_none nothing]
        exact holds.lists entry old

theorem Holds.of_after (after : After capacity calls memory) : Holds capacity calls memory := by
  induction after with
  | new =>
    have none : lastKeys capacity [] = [] := by simp [lastKeys, uses]
    exact ⟨rfl, RecencyCache.bounded_make capacity, none.symm, fun _ member => nomatch member⟩
  | call _ ended ih => exact ih.of_ends ended

/-- The memory after calls holds what the calls tell, and the next call goes by it. -/
structure Exact (capacity : Nat) (calls : List ChangeCall) (memory : ChangeMemory) : Prop where
  /-- The last different keys that were used, each with the list that was fetched for it last. -/
  entries : (memory.entries.map fun entry => (entry.1, some entry.2)) =
    (lastKeys capacity calls).map fun key => (key, lastFetched? calls key)
  /-- The source is asked exactly for the keys that are not among them. -/
  asked : ∀ (call : ChangeCall) (next : ChangeMemory),
    Recall.Ends call.id call.parent memory .look call.reply next call.result →
      (call.reply.isSome ↔ call.key ∉ lastKeys capacity calls)
  /-- The result is what the source says if it is asked, and else the list that was fetched last. -/
  result : ∀ (call : ChangeCall) (next : ChangeMemory),
    Recall.Ends call.id call.parent memory .look call.reply next call.result →
      some call.result = call.reply.or ((lastFetched? calls call.key).map .ok)
  /-- A call that fails leaves everything as it was. -/
  failed : ∀ (call : ChangeCall) (next : ChangeMemory) (fault : Fault),
    Recall.Ends call.id call.parent memory .look call.reply next call.result →
      call.result = .error fault → next = memory
  /-- Whatever the source would say, the next call comes to its end. -/
  ends : ∀ id parent said, ∃ reply next result, (reply = none ∨ reply = some said) ∧
    Recall.Ends id parent memory .look reply next result

theorem Holds.exact (holds : Holds capacity calls memory) : Exact capacity calls memory where
  entries := by
    rw [← holds.keys, RecencyCache.keys, List.map_map]
    exact List.map_congr_left fun entry member => by simp [holds.lists entry member]
  asked call next ended := by
    rw [← holds.keys, RecencyCache.mem_keys_iff, ChangeCall.key]
    obtain ⟨changes, found, silent, -⟩ | ⟨missing, told, -⟩ := Recall.ends_look_iff.mp ended
    · simp [found, silent]
    · simp [missing, told]
  result call next ended := by
    obtain ⟨changes, found, silent, -, succeeded⟩ | ⟨-, told, -⟩ := Recall.ends_look_iff.mp ended
    · have fetched := holds.lists _ (RecencyCache.mem_of_find? found)
      rw [silent, succeeded, ChangeCall.key, fetched]
      rfl
    · rw [told, Option.some_or]
  failed call next fault ended failed := by
    obtain ⟨changes, -, -, -, succeeded⟩ | ⟨-, -, rfl⟩ := Recall.ends_look_iff.mp ended
    · rw [failed] at succeeded
      cases succeeded
    · rw [failed]
      rfl
  ends id parent said := by
    cases found : memory.find? (ChangeMemory.key id parent) with
    | some changes =>
      exact ⟨none, _, .ok changes, Or.inl rfl,
        Recall.ends_look_iff.mpr (Or.inl ⟨changes, found, rfl, rfl, rfl⟩)⟩
    | none =>
      exact ⟨some said, _, said, Or.inr rfl, Recall.ends_look_iff.mpr (Or.inr ⟨found, rfl, rfl⟩)⟩

end ChangeMemory

/-! ### Calls that overlap -/

namespace Recollection.Reached

variable {pairs : Set (String × Option String)} {answers : Answers} {capacity : Nat}
  {recollection : Recollection}

/-- A request goes to its end as if there were no others. -/
theorem of_ends {number : Nat} {id : String} {parent : Option String} {stage : Recall}
    {reply : Option (Except Fault (List Change))} {memory last : ChangeMemory}
    {result : Except Fault (List Change)}
    (reached : Reached pairs answers capacity recollection)
    (held : recollection.requests[number]? = some ⟨id, parent, stage⟩)
    (told : ∀ fetched, reply = some fetched → answers id parent fetched)
    (known : recollection.memory = memory)
    (ended : Recall.Ends id parent memory stage reply last result) :
    ∃ next, Reached pairs answers capacity next ∧ next.memory = last ∧
      next.requests[number]? = some ⟨id, parent, .done result⟩ := by
  have inside : number < recollection.requests.length := (List.getElem?_eq_some_iff.mp held).1
  induction ended generalizing recollection with
  | done => exact ⟨recollection, reached, known, held⟩
  | alone stepped _ ih =>
    have silent (fetched : Except Fault (List Change)) (some : none = some fetched) :
        answers id parent fetched := nomatch some
    subst known
    exact ih (reached.step number none held silent stepped) (List.getElem?_set_self inside) told rfl
      (by simpa using inside)
  | told stepped _ ih =>
    subst known
    exact ih (reached.step number _ held told stepped) (List.getElem?_set_self inside)
      (fun _ some => nomatch some) rfl (by simpa using inside)

/-- Calls that come one after the other are one of the ways in which requests can go. -/
theorem of_after {calls : List ChangeCall} {memory : ChangeMemory}
    (after : ChangeMemory.After capacity calls memory) :
    ∃ recollection, Reached Set.univ (fun _ _ _ => True) capacity recollection ∧
      recollection.memory = memory := by
  induction after with
  | new => exact ⟨_, .new, rfl⟩
  | @call _ _ _ call _ ended ih =>
    obtain ⟨recollection, reached, known⟩ := ih
    obtain ⟨next, reached, last, -⟩ := of_ends
      (reached.ask (Set.mem_univ (call.id, call.parent))) List.getElem?_concat_length
      (fun _ _ => trivial) known ended
    exact ⟨next, reached, last⟩

/-- However requests overlap, there is room for all that is remembered. -/
theorem bounded (reached : Reached pairs answers capacity recollection) :
    recollection.memory.Bounded ∧ recollection.memory.capacity = max capacity 1 := by
  induction reached with
  | new => exact ⟨RecencyCache.bounded_make capacity, rfl⟩
  | ask _ _ ih => exact ih
  | advance _ _ _ advanced ih =>
    obtain ⟨request, -, advanced⟩ := Option.bind_eq_some_iff.mp advanced
    obtain ⟨⟨memory, stage⟩, stepped, made⟩ := Option.bind_eq_some_iff.mp advanced
    cases made
    obtain rfl | ⟨changes, rfl⟩ := Recall.memory_of_advance ih.1 stepped
    · exact ih
    · exact ⟨ih.1.put _ _, ih.2⟩

end Recollection.Reached

/-- Calls that come one after the other leave exactly the keys that were used last, each with the
list that was fetched for it last, and the next call asks the source for every other key. However
requests overlap, no more lists are remembered than there is room for. -/
theorem ChangeMemory.exact_of_after (capacity : Nat) :
    (∀ calls memory, After capacity calls memory → Exact capacity calls memory) ∧
      ∀ pairs answers recollection, Recollection.Reached pairs answers capacity recollection →
        recollection.memory.size ≤ max capacity 1 :=
  ⟨fun _ _ after => (Holds.of_after after).exact, fun _ _ _ reached =>
    reached.bounded.2 ▸ reached.bounded.1.size⟩

/-- Two commits are asked for, then the first one again, and then a third one, for which the source
refuses to answer. -/
def sampleCalls : List ChangeCall :=
  [⟨"c3", none, some (.error (.source "s" "busy")), .error (.source "s" "busy")⟩,
    ⟨"c1", none, none, .ok [⟨"a", none, .added⟩]⟩,
    ⟨"c2", some "c1", some (.ok [⟨"b", none, .deleted⟩]), .ok [⟨"b", none, .deleted⟩]⟩,
    ⟨"c1", none, some (.ok [⟨"a", none, .added⟩]), .ok [⟨"a", none, .added⟩]⟩]

/-- What is remembered after the sample calls: the key that was used again is the first one. -/
def sampleMemory : ChangeMemory :=
  ⟨2, [("c1:root", [⟨"a", none, .added⟩]), ("c2:c1", [⟨"b", none, .deleted⟩])]⟩

theorem after_sampleCalls : ChangeMemory.After 2 sampleCalls sampleMemory := by
  have first : ChangeMemory.After 2 (sampleCalls.drop 3)
      ⟨2, [("c1:root", [⟨"a", none, .added⟩])]⟩ :=
    .call .new (.alone rfl (.told rfl (.alone rfl (.done _ _))))
  have second : ChangeMemory.After 2 (sampleCalls.drop 2)
      ⟨2, [("c2:c1", [⟨"b", none, .deleted⟩]), ("c1:root", [⟨"a", none, .added⟩])]⟩ :=
    .call first (.alone rfl (.told rfl (.alone rfl (.done _ _))))
  have again : ChangeMemory.After 2 (sampleCalls.drop 1) sampleMemory :=
    .call second (.alone rfl (.done _ _))
  exact .call again (.alone rfl (.told rfl (.done _ _)))

/-- Two requests overlap, and the second one finds no room beside the first. -/
theorem exists_overlapping :
    ∃ recollection, Recollection.Reached Set.univ (fun _ _ _ => True) 0 recollection ∧
      recollection.requests.map ChangeRequest.stage = [.done (.ok []), .done (.ok [])] ∧
      recollection.memory.entries = [("c2:root", [])] := by
  have told (fetched : Except Fault (List Change))
      (_ : some (Except.ok []) = some fetched) : True := trivial
  have silent (fetched : Except Fault (List Change)) (_ : none = some fetched) : True := trivial
  have begun : Recollection.Reached Set.univ (fun _ _ _ => True) 0 _ :=
    (Recollection.Reached.new.ask (Set.mem_univ ("c1", none))).ask (Set.mem_univ ("c2", none))
  have asking := (begun.step 0 none rfl silent rfl).step 1 none rfl silent rfl
  have answered := (asking.step 0 (some (.ok [])) rfl told rfl).step 1 (some (.ok [])) rfl told rfl
  have kept := (answered.step 0 none rfl silent rfl).step 1 none rfl silent rfl
  exact ⟨_, kept, rfl, rfl⟩

theorem exact_of_after_sampleCalls :
    ChangeMemory.After 2 sampleCalls sampleMemory ∧
      ChangeMemory.Exact 2 sampleCalls sampleMemory ∧
      ∃ recollection, Recollection.Reached Set.univ (fun _ _ _ => True) 0 recollection ∧
        recollection.memory.entries = [("c2:root", [])] ∧
        recollection.memory.size ≤ max 0 1 := by
  obtain ⟨recollection, reached, -, entries⟩ := exists_overlapping
  exact ⟨after_sampleCalls, (ChangeMemory.exact_of_after 2).1 _ _ after_sampleCalls, recollection,
    reached, entries, (ChangeMemory.exact_of_after 0).2 _ _ _ reached⟩

end CommitHistory
