/-
# Rotating colours

The rotating colours take turns for the lanes that no label colours. A commit opens such lanes to
its further parents, and to its first parent if no lane leads to the commit; a lane that goes on
to a first parent takes no turn. The turns are counted through all pages of a graph, so the
colour of such a lane tells how many of them were opened before it, up to whole rounds.

## Main definitions

* `Color.afterTurns` — the rotating colour used last after a number of turns.
* `Row.turns`, `Graph.turns` — the parents whose lanes take turns, in a row and in a graph.
* `Row.opened?` — the lane that a row opens to a parent.

## Main results

* `Lane.getElem?_openEach_of_turn` — the colours of lanes that are opened one after the other.
* `Graph.lastColor_ofPlaces` — the graph remembers nothing of the turns but their number.
* `Graph.rotation_of_laid` — who has which turn, and where all other colours come from.
-/

import CommitHistory.Proofs.Graph.Geometry

namespace CommitHistory

namespace Color

/-- The rotating colour used last when so many lanes have taken their turns. -/
def afterTurns : Nat → Option Nat
  | 0 => none
  | count + 1 => some (count % rotation)

@[simp] theorem next_afterTurns (count : Nat) : next (afterTurns count) = count % rotation := by
  cases count with
  | zero => rfl
  | succ count => rw [afterTurns, next, Nat.mod_add_mod]

theorem some_mod_rotation (count : Nat) : some (count % rotation) = afterTurns (count + 1) := rfl

theorem lt_rotation_of_afterTurns {count index : Nat} (used : afterTurns count = some index) :
    index < rotation := by
  cases count with
  | zero => cases used
  | succ count =>
    cases used
    exact Nat.mod_lt count (by decide)

end Color

namespace Row

/-- The positions of the parents to which a row opens lanes that no label colours. The first parent
has such a lane if no lane leads to the commit and the commit has no coloured label; a further
parent has one if the page of the commit has no coloured label for it. -/
def turns (setting : Graph.Setting) (row : Row) : List Nat :=
  (List.range row.commit.parents.length).filter fun position =>
    if position = 0 then
      !row.input.any (·.target = row.commit.id) && (setting.palette.labelColor row.commit).isNone
    else (row.commit.parents[position]?.bind setting.parentColor).isNone

/-- The lane that a row opens to the parent at a position. The lanes that a row opens are its last
ones, in the order of the parents. -/
def opened? (row : Row) (position : Nat) : Option Lane :=
  row.output[row.output.length - (row.commit.parents.length - position)]?

end Row

/-! ### Lanes that are opened one after the other -/

namespace Lane

variable {parents : List (String × Option Color)}

/-- The positions of the parents that are given no colour. -/
def turns (parents : List (String × Option Color)) : List Nat :=
  (List.range parents.length).filter fun position =>
    (parents[position]?.bind Prod.snd).isNone

theorem turns_cons (parent : String × Option Color) (rest : List (String × Option Color)) :
    turns (parent :: rest) =
      (if parent.2.isNone then [0] else []) ++ (turns rest).map Nat.succ := by
  have later : (fun position => (((parent :: rest)[position]?).bind Prod.snd).isNone) ∘ Nat.succ =
      fun position => (rest[position]?.bind Prod.snd).isNone := by
    funext position
    simp
  rw [turns, List.length_cons, List.range_succ_eq_map, List.filter_cons, List.filter_map, later]
  simp only [List.getElem?_cons_zero, Option.bind_some, turns]
  split <;> rfl

/-- Every lane without a colour of its own takes one turn. -/
theorem openEach_afterTurns (count : Nat) (parents : List (String × Option Color)) :
    (openEach (Color.afterTurns count) parents).2 =
      Color.afterTurns (count + (turns parents).length) := by
  induction parents generalizing count with
  | nil => rfl
  | cons parent rest ih =>
    obtain ⟨target, _ | color⟩ := parent
    · simp [openEach, turns_cons, Color.some_mod_rotation, ih, Nat.add_assoc, Nat.add_comm 1]
    · simp [openEach, turns_cons, ih]

/-- The turns go by the order of the parents. -/
theorem getElem?_openEach_of_turn {k position : Nat} (count : Nat)
    (turn : (turns parents)[k]? = some position) :
    ∃ target, parents[position]? = some (target, none) ∧
      (openEach (Color.afterTurns count) parents).1[position]? =
        some ⟨target, .lane ((count + k) % Color.rotation)⟩ := by
  induction parents generalizing count k position with
  | nil => cases turn
  | cons parent rest ih =>
    obtain ⟨target, _ | color⟩ := parent
    · -- The first lane has the first turn, so the other lanes have theirs one later.
      cases k with
      | zero =>
        obtain rfl : 0 = position := by simpa [turns_cons] using turn
        exact ⟨target, rfl, by simp [openEach]⟩
      | succ k =>
        obtain ⟨position, later, rfl⟩ : ∃ other, (turns rest)[k]? = some other ∧
            other + 1 = position := by simpa [turns_cons] using turn
        obtain ⟨target, parent, lane⟩ := ih (count + 1) later
        rw [Nat.add_assoc, Nat.add_comm 1] at lane
        exact ⟨target, parent, by simpa [openEach, Color.some_mod_rotation] using lane⟩
    · obtain ⟨position, later, rfl⟩ : ∃ other, (turns rest)[k]? = some other ∧
          other + 1 = position := by simpa [turns_cons] using turn
      obtain ⟨target, parent, lane⟩ := ih count later
      exact ⟨target, parent, by simpa [openEach] using lane⟩

/-- A lane that is opened has a colour of its own or has taken a turn. -/
theorem color_of_mem_openEach {lane : Lane} {count : Nat}
    (member : lane ∈ (openEach (Color.afterTurns count) parents).1) :
    (∃ parent ∈ parents, parent.2 = some lane.color) ∨
      ∃ k < (turns parents).length, lane.color = .lane ((count + k) % Color.rotation) := by
  induction parents generalizing count with
  | nil => cases member
  | cons parent rest ih =>
    obtain ⟨target, _ | color⟩ := parent
    · rw [openEach, List.mem_cons, Color.next_afterTurns, Color.some_mod_rotation] at member
      obtain rfl | member := member
      · exact Or.inr ⟨0, by simp [turns_cons], rfl⟩
      · obtain ⟨parent, given, own⟩ | ⟨k, inside, color⟩ := ih member
        · exact Or.inl ⟨parent, List.mem_cons_of_mem _ given, own⟩
        · refine Or.inr ⟨k + 1, by simpa [turns_cons, Nat.add_comm 1] using inside, ?_⟩
          rw [color, Nat.add_assoc, Nat.add_comm 1]
    · rw [openEach, List.mem_cons] at member
      obtain rfl | member := member
      · exact Or.inl ⟨_, List.mem_cons_self, rfl⟩
      · obtain ⟨parent, given, own⟩ | ⟨k, inside, color⟩ := ih member
        · exact Or.inl ⟨parent, List.mem_cons_of_mem _ given, own⟩
        · exact Or.inr ⟨k, by simpa [turns_cons] using inside, color⟩

end Lane

namespace Graph

variable {setting : Setting} {row : Row} {input : List Lane} {commit : Commit} {count : Nat}

/-! ### The turns of one row -/

/-- The parents to which a row opens lanes are the last ones. -/
theorem Setting.map_fst_opened_eq_drop (setting : Setting) (commit : Commit) (input : List Lane) :
    (setting.opened commit input).map Prod.fst =
      commit.parents.drop (commit.parents.length - (setting.opened commit input).length) := by
  have last : (setting.opened commit input).map Prod.fst <:+ commit.parents := by
    rw [Setting.map_fst_opened]
    split
    · exact List.tail_suffix _
    · exact List.suffix_refl _
  simpa using List.suffix_iff_eq_drop.mp last

/-- The turns of a row are those of the lanes that it opens. Parents without a lane of their own
come before those with one. -/
theorem turns_eq_map (setting : Setting) (row : Row) :
    row.turns setting = (Lane.turns (setting.opened row.commit row.input)).map
      (· + (row.commit.parents.length - (setting.opened row.commit row.input).length)) := by
  cases parents : row.commit.parents with
  | nil => simp [Row.turns, Setting.opened, parents, Lane.turns]
  | cons first further =>
    -- The further parents have the same turns whether or not the first parent has one.
    have others : (List.range further.length).filter (fun position =>
          (further[position]?.bind setting.parentColor).isNone) =
        Lane.turns (further.map fun parent => (parent, setting.parentColor parent)) := by
      rw [Lane.turns, List.length_map]
      congr 1
      funext position
      cases found : further[position]? <;> simp [found]
    have split : row.turns setting =
        (if !row.input.any (·.target = row.commit.id) &&
            (setting.palette.labelColor row.commit).isNone then [0] else []) ++
          (Lane.turns (further.map fun parent => (parent, setting.parentColor parent))).map
            Nat.succ := by
      rw [Row.turns, parents, List.length_cons, List.range_succ_eq_map, List.filter_cons,
        List.filter_map, ← others]
      have later : (fun position => if position = 0 then
            !row.input.any (·.target = row.commit.id) &&
              (setting.palette.labelColor row.commit).isNone
            else (((first :: further)[position]?).bind setting.parentColor).isNone) ∘ Nat.succ =
          fun position => (further[position]?.bind setting.parentColor).isNone := by
        funext position
        simp
      rw [later, if_pos rfl]
      split <;> rfl
    rw [split]
    by_cases onLane : row.input.any (·.target = row.commit.id)
    · simp [Setting.opened, parents, onLane]
    · simp [Setting.opened, parents, onLane, Lane.turns_cons]

/-- A row takes its turns after those of the rows above it. -/
theorem opened?_of_turn {k position : Nat}
    (laid : row = (layRow setting input (Color.afterTurns count) commit).1)
    (turn : (row.turns setting)[k]? = some position) :
    ∃ parent, row.commit.parents[position]? = some parent ∧
      row.opened? position = some ⟨parent, .lane ((count + k) % Color.rotation)⟩ := by
  obtain ⟨commitEq, inputEq, output⟩ : row.commit = commit ∧ row.input = input ∧
      row.output = Lane.carry commit (setting.palette.labelColor commit) false input ++
        (Lane.openEach (Color.afterTurns count) (setting.opened commit input)).1 := by
    rw [laid]
    exact ⟨rfl, rfl, rfl⟩
  rw [turns_eq_map, List.getElem?_map, Option.map_eq_some_iff, commitEq, inputEq] at turn
  obtain ⟨place, turn, rfl⟩ := turn
  obtain ⟨parent, given, lane⟩ := Lane.getElem?_openEach_of_turn count turn
  have parents := setting.map_fst_opened_eq_drop commit input
  have named := congrArg (·[place]?) parents
  rw [List.getElem?_map, given, List.getElem?_drop, Nat.add_comm] at named
  -- The lanes that are opened make up the end of the row.
  have column : row.output.length - (commit.parents.length - (place +
      (commit.parents.length - (setting.opened commit input).length))) =
        (Lane.carry commit (setting.palette.labelColor commit) false input).length + place := by
    have many := congrArg List.length parents
    have opened := congrArg List.length
      (Lane.map_target_openEach (Color.afterTurns count) (setting.opened commit input))
    obtain ⟨inside, -⟩ := List.getElem?_eq_some_iff.mp given
    rw [List.length_map, List.length_drop] at many
    rw [List.length_map, List.length_map] at opened
    rw [output, List.length_append, opened]
    omega
  refine ⟨parent, by rw [commitEq]; exact named.symm, ?_⟩
  rw [Row.opened?, commitEq, column, output, List.getElem?_append_right (Nat.le_add_right _ _),
    Nat.add_sub_cancel_left]
  exact lane

/-! ### The turns of a graph -/

/-- The parents whose lanes take turns, row by row and in the order of the parents. A parent is
named by its row and its position. -/
def turns (places : List (Setting × Commit)) : List (Nat × Nat) :=
  (places.zip (ofPlaces places).rows).zipIdx.flatMap fun ((place, row), i) =>
    (row.turns place.1).map (i, ·)

theorem turns_concat (places : List (Setting × Commit)) (place : Setting × Commit) :
    turns (places ++ [place]) = turns places ++
      ((layRow place.1 (ofPlaces places).openLanes (ofPlaces places).lastColor place.2).1.turns
        place.1).map (places.length, ·) := by
  have size := length_rows_ofPlaces places
  rw [turns, ofPlaces_concat, add, List.zip_append size.symm, List.zipIdx_append,
    List.flatMap_append, List.length_zip, size]
  simp [turns]

/-- The turns are those of the rows, each laid for its place. -/
theorem mem_turns_iff {places : List (Setting × Commit)} {i position : Nat} :
    (i, position) ∈ turns places ↔
      ∃ place row, places[i]? = some place ∧ (ofPlaces places).rows[i]? = some row ∧
        position ∈ row.turns place.1 := by
  simp only [turns, List.mem_flatMap, List.mem_map, Prod.exists, List.mem_zipIdx_iff_getElem?,
    List.getElem?_zip_eq_some, Prod.mk.injEq]
  constructor
  · rintro ⟨setting, commit, row, _, ⟨here, laid⟩, _, turn, rfl, rfl⟩
    exact ⟨setting, commit, row, here, laid, turn⟩
  · rintro ⟨setting, commit, row, here, laid, turn⟩
    exact ⟨setting, commit, row, i, ⟨here, laid⟩, position, turn, rfl, rfl⟩

/-- Row comes after row, and parent after parent. -/
theorem pairwise_turns (places : List (Setting × Commit)) :
    (turns places).Pairwise fun first second =>
      first.1 < second.1 ∨ first.1 = second.1 ∧ first.2 < second.2 := by
  induction places using List.reverseRecOn with
  | nil => exact List.Pairwise.nil
  | append_singleton places place ih =>
    rw [turns_concat, List.pairwise_append, List.pairwise_map]
    refine ⟨ih, (List.pairwise_lt_range.filter _).imp fun less => Or.inr ⟨rfl, less⟩, ?_⟩
    rintro ⟨i, position⟩ earlier _ last
    obtain ⟨_, -, rfl⟩ := List.mem_map.mp last
    obtain ⟨_, _, here, -⟩ := mem_turns_iff.mp earlier
    exact Or.inl (List.getElem?_eq_some_iff.mp here).1

/-- The rotating colour used last tells how many turns there were, up to whole rounds. -/
theorem lastColor_ofPlaces (places : List (Setting × Commit)) :
    (ofPlaces places).lastColor = Color.afterTurns (turns places).length := by
  induction places using List.reverseRecOn with
  | nil => rfl
  | append_singleton places place ih =>
    have row : ((ofPlaces places).add place.1 place.2).lastColor =
        (Lane.openEach (ofPlaces places).lastColor
          (place.1.opened place.2 (ofPlaces places).openLanes)).2 := rfl
    rw [ofPlaces_concat, row, turns_concat, ih, Lane.openEach_afterTurns, List.length_append,
      List.length_map, turns_eq_map, List.length_map]
    rfl

/-- Every turn is that of a lane to a parent, in the colour that the number of turns before it
gives. -/
theorem opened?_of_turns {places : List (Setting × Commit)} {n i position : Nat}
    (turn : (turns places)[n]? = some (i, position)) :
    ∃ row parent, (ofPlaces places).rows[i]? = some row ∧
      row.commit.parents[position]? = some parent ∧
      row.opened? position = some ⟨parent, .lane (n % Color.rotation)⟩ := by
  induction places using List.reverseRecOn with
  | nil => cases turn
  | append_singleton places place ih =>
    rw [turns_concat] at turn
    rw [ofPlaces_concat, add]
    by_cases before : n < (turns places).length
    · rw [List.getElem?_append_left before] at turn
      obtain ⟨row, parent, here, rest⟩ := ih turn
      obtain ⟨inside, -⟩ := List.getElem?_eq_some_iff.mp here
      exact ⟨row, parent, by rw [List.getElem?_append_left inside, here], rest⟩
    · -- The turn is one of the last row's.
      rw [List.getElem?_append_right (Nat.le_of_not_lt before), List.getElem?_map,
        Option.map_eq_some_iff] at turn
      obtain ⟨_, turn, same⟩ := turn
      cases same
      obtain ⟨parent, named, lane⟩ := opened?_of_turn
        (by rw [← lastColor_ofPlaces places]) turn
      rw [Nat.add_sub_cancel' (Nat.le_of_not_lt before)] at lane
      exact ⟨_, parent, by simp [length_rows_ofPlaces], named, lane⟩

/-! ### Where colours come from -/

/-- A colour that one of the turns of a graph gives, or a palette. -/
def Known (places : List (Setting × Commit)) (color : Color) : Prop :=
  (∃ n < (turns places).length, color = .lane (n % Color.rotation)) ∨
    ∃ place ∈ places, ∃ title, place.1.palette.get? title = some color

theorem Known.concat {places : List (Setting × Commit)} {color : Color}
    (known : Known places color) (place : Setting × Commit) : Known (places ++ [place]) color := by
  obtain ⟨n, turn, same⟩ | ⟨other, member, given⟩ := known
  · refine Or.inl ⟨n, ?_, same⟩
    rw [turns_concat, List.length_append]
    omega
  · exact Or.inr ⟨other, List.mem_append_left _ member, given⟩

/-- A lane has its colour from a label or from a turn, in whatever row it is. -/
theorem known_color {places : List (Setting × Commit)} :
    ∀ row ∈ (ofPlaces places).rows, ∀ lane ∈ row.input ++ row.output,
      Known places lane.color := by
  induction places using List.reverseRecOn with
  | nil => exact fun _ member => absurd member List.not_mem_nil
  | append_singleton places place ih =>
    have palette : place.1.palette.Colored (Known (places ++ [place])) :=
      fun title color given => Or.inr ⟨place, by simp, title, given⟩
    have above : ∀ lane ∈ (ofPlaces places).openLanes, Known (places ++ [place]) lane.color := by
      intro lane member
      obtain ⟨row, here, leaves⟩ := exists_row_of_mem_openLanes member
      exact (ih row here lane (List.mem_append_right _ leaves)).concat place
    intro row member lane around
    rw [ofPlaces_concat, add, List.mem_append, List.mem_singleton] at member
    obtain old | rfl := member
    · exact (ih row old lane around).concat place
    · -- The lanes of the last row come from above, go on, or are opened.
      obtain enters | leaves := List.mem_append.mp around
      · exact above lane enters
      · obtain carried | opened := List.mem_append.mp leaves
        · exact Lane.carry_colored (fun _ found => palette.labelColor found) above lane carried
        · rw [lastColor_ofPlaces] at opened
          obtain ⟨parent, given, own⟩ | ⟨k, turn, color⟩ := Lane.color_of_mem_openEach opened
          · exact Setting.opened_colored palette parent given _ own
          · refine Or.inl ⟨(turns places).length + k, ?_, color⟩
            rw [turns_concat, List.length_append, List.length_map, turns_eq_map, List.length_map]
            exact Nat.add_lt_add_left turn _

/-! ### Every graph -/

/-- How the rotating colours go through a graph. -/
structure Rotation (settings : List Setting) : Prop where
  /-- The turns are taken in the rows of the commits, each with the setting of its page. -/
  listed : ∀ i position, (i, position) ∈ turns (places settings) ↔
    ∃ (setting : Setting) (row : Row), (places settings)[i]? = some (setting, row.commit) ∧
      (laid settings).rows[i]? = some row ∧ position ∈ row.turns setting
  /-- They are in the order of the rows, and in each row in the order of the parents. -/
  ordered : (turns (places settings)).Pairwise fun first second =>
    first.1 < second.1 ∨ first.1 = second.1 ∧ first.2 < second.2
  /-- The lanes that take turns have the rotating colours one after the other. -/
  nth : ∀ n i position, (turns (places settings))[n]? = some (i, position) →
    ∃ (setting : Setting) (row : Row) (parent : String),
      (places settings)[i]? = some (setting, row.commit) ∧
      (laid settings).rows[i]? = some row ∧ position ∈ row.turns setting ∧
      row.commit.parents[position]? = some parent ∧
      row.opened? position = some ⟨parent, .lane (n % Color.rotation)⟩
  /-- All lanes have the colour of a turn or of a palette. -/
  known : ∀ row ∈ (laid settings).rows, ∀ lane ∈ row.input ++ row.output,
    Known (places settings) lane.color
  /-- Above every row the graph remembers the number of the turns so far, up to whole rounds. -/
  counted : ∀ i, (above settings i).lastColor =
    Color.afterTurns (turns ((places settings).take i)).length
  /-- Whatever lanes a row opens, the rotating colour used last is one of the rotation, and the next
  number has eight bits. -/
  bounded : ∀ i parents index,
    (Lane.openEach (above settings i).lastColor parents).2 = some index →
      index < Color.rotation ∧ index + 1 < UInt8.size

/-- A turn is that of a row, which is laid for a commit with the setting of its page. -/
theorem mem_turns_places_iff {settings : List Setting} {i position : Nat} :
    (i, position) ∈ turns (places settings) ↔
      ∃ (setting : Setting) (row : Row), (places settings)[i]? = some (setting, row.commit) ∧
        (laid settings).rows[i]? = some row ∧ position ∈ row.turns setting := by
  rw [mem_turns_iff, ← laid_eq_ofPlaces]
  constructor
  · rintro ⟨place, row, here, laid, turn⟩
    obtain ⟨setting, same, -⟩ := exists_place laid
    obtain rfl := Option.some.inj (here.symm.trans same)
    exact ⟨setting, row, here, laid, turn⟩
  · rintro ⟨setting, row, here, laid, turn⟩
    exact ⟨_, row, here, laid, turn⟩

/-- However the pages of a graph were laid, the rotating colours go through it as the rotation
says. -/
theorem rotation_of_laid (settings : List Setting) : Rotation settings where
  listed _ _ := mem_turns_places_iff
  ordered := pairwise_turns _
  nth n i position turn := by
    obtain ⟨setting, row, here, laid, own⟩ :=
      mem_turns_places_iff.mp (List.mem_of_getElem? turn)
    obtain ⟨_, parent, same, named, lane⟩ := opened?_of_turns turn
    rw [← laid_eq_ofPlaces, laid] at same
    cases same
    exact ⟨setting, row, parent, here, laid, own, named, lane⟩
  known := by
    rw [laid_eq_ofPlaces]
    exact known_color
  counted i := lastColor_ofPlaces _
  bounded i parents index used := by
    rw [above, lastColor_ofPlaces, Lane.openEach_afterTurns] at used
    have inside := Color.lt_rotation_of_afterTurns used
    have small : Color.rotation + 1 < UInt8.size := by decide
    exact ⟨inside, by omega⟩

/-- Two pages with merges. -/
def mergePages : List Setting :=
  [⟨.empty, [bareCommit "m" ["a", "b"] []], none⟩,
    ⟨.empty, [bareCommit "a" ["x", "y"] [], bareCommit "z" ["x", "v", "w"] []], none⟩]

/-- A merge takes two turns. On the next page its first parent, which has a lane, takes one for its
own second parent, and a merge without a lane takes three. The last of these is the sixth turn, in
the colour of the first one. -/
theorem rotation_of_laid_mergePages :
    Rotation mergePages ∧
      turns (places mergePages) = [(0, 0), (0, 1), (1, 1), (2, 0), (2, 1), (2, 2)] ∧
      (turns (places mergePages)).map (fun (i, position) =>
        (laid mergePages).rows[i]?.bind (·.opened? position)) =
          [some ⟨"a", .lane 0⟩, some ⟨"b", .lane 1⟩, some ⟨"y", .lane 2⟩, some ⟨"x", .lane 3⟩,
            some ⟨"v", .lane 4⟩, some ⟨"w", .lane 0⟩] :=
  ⟨rotation_of_laid mergePages, by decide, by decide⟩

end Graph

end CommitHistory
