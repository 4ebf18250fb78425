/-
# Files that are read as they were written

Writing puts one file under the names that a path leads to. What was a directory before is one
afterwards, since a file is never put in the place of a directory, so the path still leads to the
same place and the file is found there.

## Main results

* `Files.Directory.eq_ofPath_of_placeFrom` — a path leads to the place that its names tell.
* `Files.Directory.look_of_write` — a path leads to what was written to it.
* `Files.Directory.exists?_of_write`, `Files.Directory.read_of_write` — the file exists and has the
  bytes that were written.
* `Files.Directory.nearest?_eq_some_iff` — what the search for a file upwards finds.
-/

import CommitHistory.Files.Directory

namespace CommitHistory.Files.Directory

variable {files after : Directory} {place target start : Place} {names : List (List Char)}
  {entry : Entry} {path : String} {bytes : List UInt8} {name : List Char}

/-! ### Places -/

/-- Names that are followed lead to the place that they tell, whatever lies on the way. -/
theorem eq_foldl_of_follow (led : files.follow place names = .ok target) :
    target = names.foldl Place.next place := by
  induction names generalizing place with
  | nil => exact (Except.ok.inj led).symm
  | cons name rest ih =>
    rw [follow] at led
    split at led
    · cases led
    · cases led
    · split at led
      · cases led
      · exact ih led

/-- So a file is kept under the route to which its path leads from the working directory. -/
theorem eq_ofPath_of_placeFrom (led : files.placeFrom .here path = .ok target) :
    target = .ofPath path := by
  rw [placeFrom] at led
  split at led
  · cases led
  · split at led
    · cases led
    · split at led
      · cases led
      · exact eq_foldl_of_follow led

/-- Two dots lead out of a directory, but not out of the root. -/
example :
    Place.ofPath "a/../../b" = ⟨.above 1, [['b']]⟩ ∧
      Place.ofPath "/../a/./b" = ⟨.root, [['a'], ['b']]⟩ := by decide

/-- There is always a directory at the end of no names. -/
theorem ne_nil_of_at? (other : files.at? place ≠ some .directory) : place.names ≠ [] := by
  intro none
  apply other
  rw [at?, none]
  rfl

theorem at?_of_ne_nil (named : place.names ≠ []) :
    files.at? place = (files.entries.lookup place.route).or
      (if files.entries.any fun entry => place.route.isPrefixOf entry.1 then some .directory
        else none) := by
  rw [at?, if_neg (by rwa [List.isEmpty_iff]), under?]

/-! ### What is put and what stays -/

/-- What is put under the route to a place is found there. -/
theorem at?_put_self (named : place.names ≠ []) :
    (files.put place.route entry).at? place = some entry := by
  rw [at?_of_ne_nil named, put, List.lookup_cons_self]
  rfl

/-- A directory elsewhere stays one. -/
theorem at?_put_of_ne (different : place.route ≠ names)
    (directory : files.at? place = some .directory) :
    (files.put names entry).at? place = some .directory := by
  by_cases base : place.names = []
  · rw [at?, base]
    rfl
  · have differs : (place.route == names) = false := beq_eq_false_iff_ne.mpr different
    rw [at?_of_ne_nil base] at directory
    rw [at?_of_ne_nil base, put, List.lookup_cons, differs]
    rcases Option.or_eq_some_iff.mp directory with found | ⟨absent, found⟩
    · exact Option.or_eq_some_iff.mpr (.inl found)
    · refine Option.or_eq_some_iff.mpr (.inr ⟨absent, ?_⟩)
      -- What lies below the directory still does.
      split at found
      · next below => rw [if_pos (by rw [List.any_cons, below, Bool.or_true])]
      · cases found

/-- So does a directory when something is put where no directory is. -/
theorem at?_put_of_directory (other : files.at? target ≠ some .directory)
    (directory : files.at? place = some .directory) :
    (files.put target.route entry).at? place = some .directory := by
  by_cases base : place.names = []
  · rw [at?, base]
    rfl
  · refine at?_put_of_ne ?_ directory
    intro same
    apply other
    rw [at?_of_ne_nil (ne_nil_of_at? other), ← same, ← at?_of_ne_nil base, directory]

/-- The way to a place goes through directories, so it is not changed by a file at its end. -/
theorem follow_put (other : files.at? target ≠ some .directory) (names : List (List Char))
    (led : files.follow place names = .ok target) :
    (files.put target.route entry).follow place names = .ok target := by
  induction names generalizing place with
  | nil => exact led
  | cons name rest ih =>
    rw [follow] at led ⊢
    cases found : files.at? place with
    | none =>
      rw [found] at led
      cases led
    | some entry' =>
      rw [found] at led
      cases entry' with
      | file bytes => cases led
      | directory =>
        rw [at?_put_of_directory other found]
        simp only at led ⊢
        split at led
        · cases led
        · next short =>
          rw [if_neg short]
          exact ih led

theorem placeFrom_put (other : files.at? target ≠ some .directory)
    (led : files.placeFrom start path = .ok target) :
    (files.put target.route entry).placeFrom start path = .ok target := by
  revert led
  rw [placeFrom, placeFrom]
  repeat' split
  all_goals
    intro led
    first
    | exact led
    | exact follow_put other _ led

/-- What a write that succeeds has found and done. -/
theorem exists_of_write (written : files.write path bytes = .ok after) :
    ∃ target, files.placeFrom .here path = .ok target ∧ files.at? target ≠ some .directory ∧
      wantsDirectory path = false ∧ after = files.put target.route (.file bytes) := by
  rw [write] at written
  cases led : files.placeFrom .here path with
  | error refusal =>
    rw [led] at written
    cases written
  | ok target =>
    rw [led] at written
    simp only [bind, Except.bind] at written
    refine ⟨target, rfl, ?_⟩
    cases found : files.at? target with
    | none =>
      rw [found] at written
      simp only at written
      split at written
      · cases written
      · cases written
      · split at written
        · cases written
        next plain => exact ⟨nofun, by simpa using plain, (Except.ok.inj written).symm⟩
    | some entry =>
      rw [found] at written
      cases entry with
      | directory => cases written
      | file bytes' =>
        simp only at written
        split at written
        · cases written
        next plain => exact ⟨nofun, by simpa using plain, (Except.ok.inj written).symm⟩

/-- A path leads to what was written to it. -/
theorem look_of_write (written : files.write path bytes = .ok after) :
    after.look path = .ok (.file bytes) := by
  obtain ⟨target, led, other, plain, rfl⟩ := exists_of_write written
  have still : (files.put target.route (.file bytes)).placeFrom .here path = .ok target :=
    placeFrom_put other led
  have found : (files.put target.route (.file bytes)).at? target = some (.file bytes) :=
    at?_put_self (ne_nil_of_at? other)
  rw [look, lookFrom, still]
  simp only [bind, Except.bind, found, plain, Bool.false_eq_true, if_false]

theorem exists?_of_write (written : files.write path bytes = .ok after) :
    after.exists? path = true := by
  rw [exists?, look_of_write written]
  rfl

/-- The bytes that were written are read. -/
theorem read_of_write (written : files.write path bytes = .ok after) :
    after.read path = .ok bytes := by
  rw [read, look_of_write written]
  rfl

/-! ### The nearest file of a name -/

/-- No file is further up than entries reach. -/
theorem le_reach_of_fileAbove? {steps : Nat} (found : files.fileAbove? name steps = some bytes) :
    steps ≤ files.reach := by
  have kept : files.entries.lookup (Place.route ⟨.above steps, [name]⟩) = some (.file bytes) := by
    rw [fileAbove?, at?_of_ne_nil (by simp)] at found
    split at found
    next there =>
      obtain rfl := Option.some.inj found
      rcases Option.or_eq_some_iff.mp there with kept | ⟨-, below⟩
      · exact kept
      · split at below <;> cases below
    · cases found
  obtain ⟨earlier, later, split, -⟩ := List.lookup_eq_some_iff.mp kept
  have long : steps + 1 ∈ files.entries.map (·.1.length) := by
    rw [split]
    simp [Place.route, Base.names]
  exact Nat.le_trans (Nat.le_succ steps) (List.le_max?_getD_of_mem long)

/-- The search upwards finds the file that is the fewest steps away, however far that is. -/
theorem nearest?_eq_some_iff :
    files.nearest? name = some bytes ↔
      ∃ steps, files.fileAbove? name steps = some bytes ∧
        ∀ fewer < steps, files.fileAbove? name fewer = none := by
  simp only [nearest?, bind, Option.bind_eq_some_iff, List.find?_range_eq_some, List.mem_range,
    Option.not_isSome, Option.isNone_iff_eq_none]
  constructor
  · rintro ⟨steps, ⟨-, -, first⟩, found⟩
    exact ⟨steps, found, first⟩
  · rintro ⟨steps, found, first⟩
    have near : steps < files.reach + 1 := Nat.lt_succ_of_le (le_reach_of_fileAbove? found)
    exact ⟨steps, ⟨Option.isSome_of_eq_some found, near, first⟩, found⟩

end CommitHistory.Files.Directory
