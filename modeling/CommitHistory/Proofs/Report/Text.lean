/-
# What the text of a tree looks like

A text is written in lines, one for each line of the tree, and the line of a row begins with the
columns of its graph. Every lane that enters the row has a column and the commit has one, so no
column is left blank. Colours put escape sequences around texts and change nothing else: whatever
stands between two sequences stands in the plain text, too.

A text of the tree that has a line feed in it would break its line, and one with an escape character
could make a sequence of its own, so both are excluded where lines are counted and where sequences
are removed. Of a message only the first line is written, so its line feeds do no harm.

## Main definitions

* `Row.names`, `TreeLine.names`, `TreeLine.texts` — the texts that a line shows.
* `Report.Drawn` — the columns of a row.

## Main results

* `Report.decorated_treeText` — in either style a tree is its plain text with sequences added.
* `Report.treeText_layout` — the lines, the columns and the colours of a text.
-/

import CommitHistory.Proofs.Report.Escapes
import CommitHistory.Proofs.Timestamp.Rendering

namespace CommitHistory

open Text

/-- The texts of a row that stand in one line: its identifier, its author and its labels. -/
def Row.names (row : Row) : List String :=
  row.commit.id :: row.commit.author :: row.labels.map fun colored => colored.label.title

/-- The texts of a line that have to keep to one line. -/
def TreeLine.names : TreeLine → List String
  | .row _ shown => shown.names
  | .more _ => []

/-- All texts that a line of the tree shows something of. -/
def TreeLine.texts : TreeLine → List String
  | .row _ shown => shown.commit.message :: shown.names
  | .more _ => []

namespace Report

variable {c : Char} {row : Row} {line : TreeLine}

/-! ### Colours only decorate -/

theorem isCode_colorCode (color : Color) : IsCode (colorCode color) := by
  cases color with
  | lane index =>
    simp only [colorCode]
    -- Every digit of the code is looked at, not every character.
    split <;> exact ⟨by decide, List.all_eq_true.mp (by decide)⟩
  | _ => exact ⟨by decide, List.all_eq_true.mp (by decide)⟩

@[simp] theorem paint_plain (color : Option Color) (text : List Char) :
    Style.plain.paint color text = text := rfl

theorem decorated_paint (style : Style) (color : Option Color) (text : List Char) :
    Decorated (style.paint color text) text := by
  have number : IsCode ['0'] := ⟨by decide, List.all_eq_true.mp (by decide)⟩
  have reset : Decorated (escapeSequence ['0'] ++ []) [] := .escape number .nil
  cases style with
  | plain => exact .refl text
  | colored =>
    cases color with
    | none => exact .refl text
    | some color =>
      have opened : Decorated (escapeSequence (colorCode color) ++ text) text :=
        .escape (isCode_colorCode color) (.refl text)
      simpa [Style.paint] using opened.append reset

theorem decorated_columns (style : Style) (row : Row) :
    Decorated (style.columns row) (Style.plain.columns row) := by
  refine Decorated.joined [' '] (fun index => ?_) _
  rw [Style.column, Style.column]
  split
  · exact decorated_paint style _ _
  · cases row.input[index]? with
    | none => exact .refl _
    | some lane => exact decorated_paint style _ _

theorem decorated_labelsText (style : Style) (row : Row) :
    Decorated (style.labelsText row) (Style.plain.labelsText row) := by
  have titles := Decorated.joined [',', ' ']
    (fun colored : ColoredLabel => decorated_paint style colored.color colored.label.title.toList)
    row.labels
  rw [Style.labelsText, Style.labelsText]
  split
  · exact .nil
  · exact ((Decorated.refl [' ', '(']).append titles).append (.refl [')'])

theorem decorated_rowText (style : Style) (row : Row) :
    Decorated (style.rowText row) (Style.plain.rowText row) := by
  have graph := (decorated_columns style row).append (.refl [' ', ' '])
  have labels := (graph.append (.refl row.commit.shortId.toList)).append
    (decorated_labelsText style row)
  -- Nothing behind the labels is painted.
  have behind (more : List Char) := labels.append (.refl more)
  simpa only [Style.rowText, List.append_assoc] using behind _

/-- The line that offers more, which is never painted. -/
theorem lineText_more (style : Style) (id : RepositoryId) :
    style.lineText (.more id) = "⋯  more history available (use --pages to load more)".toList :=
  rfl

theorem decorated_lineText (style : Style) (line : TreeLine) :
    Decorated (style.lineText line) (Style.plain.lineText line) := by
  cases line with
  | row _ row => exact decorated_rowText style row
  | more id =>
    rw [lineText_more, lineText_more]
    exact .refl _

/-- In either style a tree is its plain text with escape sequences added. -/
theorem decorated_treeText (style : Style) (lines : List TreeLine) :
    Decorated (style.treeText lines) (Style.plain.treeText lines) := by
  rw [Style.treeText, Style.treeText]
  split
  · exact .refl _
  · have each (line : TreeLine) := (decorated_lineText style line).append (.refl ['\n'])
    exact Decorated.flatMap each lines

/-! ### What lines are made of -/

/-- The characters that a row has of its own, digits apart. -/
def marks : List Char := ['@', '*', '|', ' ', '(', ',', ')', '-', '[', '+', ']', ':']

theorem mem_joined {separator : List Char} {texts : List (List Char)}
    (member : c ∈ joined separator texts) : c ∈ separator ∨ ∃ text ∈ texts, c ∈ text := by
  induction texts with
  | nil => cases member
  | cons first texts ih =>
    cases texts with
    | nil => exact Or.inr ⟨first, List.mem_cons_self, by simpa [joined] using member⟩
    | cons second texts =>
      rw [joined_cons_cons, List.mem_append, List.mem_append] at member
      rcases member with (member | between) | later
      · exact Or.inr ⟨first, List.mem_cons_self, member⟩
      · exact Or.inl between
      · refine (ih later).imp_right ?_
        rintro ⟨text, listed, member⟩
        exact ⟨text, List.mem_cons_of_mem first listed, member⟩

theorem mem_column {index : Nat} (member : c ∈ Style.plain.column row index) : c ∈ marks := by
  rw [Style.column] at member
  split at member
  · rw [paint_plain] at member
    rw [List.mem_singleton.mp member]
    cases row.kind <;> decide
  · split at member
    · rw [List.mem_singleton.mp member]
      decide
    · rw [List.mem_singleton.mp member]
      decide

theorem mem_columns (member : c ∈ Style.plain.columns row) : c ∈ marks := by
  rcases mem_joined member with space | ⟨text, listed, member⟩
  · rw [List.mem_singleton.mp space]
    decide
  · obtain ⟨index, -, rfl⟩ := List.mem_map.mp listed
    exact mem_column member

theorem mem_labelsText (member : c ∈ Style.plain.labelsText row) :
    c ∈ marks ∨ ∃ name ∈ row.names, c ∈ name.toList := by
  have opening : [' ', '('] ⊆ marks := by decide
  have between : [',', ' '] ⊆ marks := by decide
  have closing : [')'] ⊆ marks := by decide
  rw [Style.labelsText] at member
  split at member
  · cases member
  · rw [List.mem_append, List.mem_append] at member
    rcases member with (opened | title) | closed
    · exact Or.inl (opening opened)
    · refine (mem_joined title).imp (fun comma => between comma) ?_
      rintro ⟨text, listed, member⟩
      obtain ⟨colored, labelled, rfl⟩ := List.mem_map.mp listed
      exact ⟨colored.label.title, by simp [Row.names, List.mem_map_of_mem labelled], member⟩
    · exact Or.inl (closing closed)

theorem statisticsText_some (statistics : Statistics) :
    statisticsText (some statistics) = " [+".toList ++ Numeral.ofNat statistics.insertions ++
      " -".toList ++ Numeral.ofNat statistics.deletions ++ [']'] :=
  rfl

theorem mem_statisticsText {statistics : Option Statistics}
    (member : c ∈ statisticsText statistics) : c.isDigit = true ∨ c ∈ marks := by
  have opening : " [+".toList ⊆ marks := by decide
  have between : " -".toList ⊆ marks := by decide
  have closing : [']'] ⊆ marks := by decide
  cases statistics with
  | none => cases member
  | some statistics =>
    simp only [statisticsText_some, List.mem_append] at member
    rcases member with (((opened | insertions) | middle) | deletions) | closed
    · exact Or.inr (opening opened)
    · exact Or.inl (Numeral.isDigit_of_mem_ofNat insertions)
    · exact Or.inr (between middle)
    · exact Or.inl (Numeral.isDigit_of_mem_ofNat deletions)
    · exact Or.inr (closing closed)

theorem mem_subject {commit : Commit} (member : c ∈ commit.subject.toList) :
    c ∈ commit.message.toList ∧ c ≠ '\n' := by
  rw [Commit.subject, String.toList_ofList] at member
  cases cut : lines commit.message.toList with
  | nil =>
    rw [cut] at member
    cases member
  | cons first others =>
    have listed : first ∈ lines commit.message.toList := by
      rw [cut]
      exact List.mem_cons_self
    rw [cut] at member
    exact mem_of_mem_lines listed member

/-- Besides its own characters and digits a row shows characters of its names and, line feeds apart,
of the message. -/
theorem mem_rowText (member : c ∈ Style.plain.rowText row) :
    (c.isDigit = true ∨ c ∈ marks) ∨ (∃ name ∈ row.names, c ∈ name.toList) ∨
      (c ∈ row.commit.message.toList ∧ c ≠ '\n') := by
  have own {more : List Char} (known : more ⊆ marks) (member : c ∈ more) :
      c.isDigit = true ∨ c ∈ marks := Or.inr (known member)
  simp only [Style.rowText, List.mem_append] at member
  rcases member with (((((((((columns | blanks) | id) | labels) | blank) | subject) | dash) |
    author) | comma) | time) | statistics
  · exact Or.inl (Or.inr (mem_columns columns))
  · exact Or.inl (own (by decide) blanks)
  · rw [Commit.shortId, String.toList_ofList] at id
    exact Or.inr (Or.inl ⟨row.commit.id, by simp [Row.names], List.mem_of_mem_take id⟩)
  · rcases mem_labelsText labels with mark | name
    · exact Or.inl (Or.inr mark)
    · exact Or.inr (Or.inl name)
  · exact Or.inl (own (by decide) blank)
  · exact Or.inr (Or.inr (mem_subject subject))
  · exact Or.inl (own (by decide) dash)
  · exact Or.inr (Or.inl ⟨row.commit.author, by simp [Row.names], author⟩)
  · exact Or.inl (own (by decide) comma)
  · have signs : ['-', '+', ' ', ':'] ⊆ marks := by decide
    exact Or.inl ((Timestamp.mem_renderMinute time).imp_right fun sign => signs sign)
  · exact Or.inl (mem_statisticsText statistics)

/-- A line without line feeds in its names is one line, in either style. -/
theorem newline_not_mem_lineText (style : Style)
    (unbroken : ∀ name ∈ line.names, '\n' ∉ name.toList) : '\n' ∉ style.lineText line := by
  -- Escape sequences bring no line feed, so the plain line is enough.
  refine (decorated_lineText style line).newline_not_mem fun member => ?_
  cases line with
  | row _ row =>
    rcases mem_rowText member with own | ⟨name, listed, member⟩ | message
    · exact absurd own (by decide)
    · exact unbroken name listed member
    · exact message.2 rfl
  | more id =>
    rw [lineText_more] at member
    exact absurd member (by decide)

/-- A line without escape characters in its texts has none. -/
theorem escape_not_mem_lineText (absent : ∀ text ∈ line.texts, '\x1b' ∉ text.toList) :
    '\x1b' ∉ Style.plain.lineText line := by
  intro member
  cases line with
  | row _ row =>
    rcases mem_rowText member with own | ⟨name, listed, member⟩ | message
    · exact absurd own (by decide)
    · exact absent name (List.mem_cons_of_mem _ listed) member
    · exact absent row.commit.message List.mem_cons_self message.1
  | more id =>
    rw [lineText_more] at member
    exact absurd member (by decide)

theorem escape_not_mem_treeText {lines : List TreeLine}
    (absent : ∀ line ∈ lines, ∀ text ∈ line.texts, '\x1b' ∉ text.toList) :
    '\x1b' ∉ Style.plain.treeText lines := by
  rw [Style.treeText]
  split
  · decide
  · intro member
    obtain ⟨line, listed, member⟩ := List.mem_flatMap.mp member
    rcases List.mem_append.mp member with member | newline
    · exact escape_not_mem_lineText (absent line listed) member
    · exact absurd newline (by decide)

/-! ### The columns of a row -/

/-- The columns of a row with their colours: one for each lane that enters and one for the commit,
which alone has a mark of its own. -/
structure Drawn (row : Row) (columns : List (Char × Option Color)) : Prop where
  length : columns.length = max row.input.length (row.nodeIndex + 1)
  node : columns[row.nodeIndex]?.map Prod.fst = some (if row.kind = .head then '@' else '*')
  lane : ∀ index column, columns[index]? = some column → index ≠ row.nodeIndex → column.1 = '|'

/-- What stands in a column, and its colour. -/
def cell (row : Row) (index : Nat) : Char × Option Color :=
  if index = row.nodeIndex then (mark row.kind, nodeColor row)
  else ('|', row.input[index]?.map Lane.color)

/-- The columns of a row. -/
def cells (row : Row) : List (Char × Option Color) := (List.range (columnCount row)).map (cell row)

theorem drawn_cells (row : Row) : Drawn row (cells row) := by
  have listed {index : Nat} {column : Char × Option Color}
      (found : (cells row)[index]? = some column) : cell row index = column := by
    obtain ⟨within, -⟩ := List.getElem?_eq_some_iff.mp found
    have within : index < columnCount row := by simpa [cells] using within
    simpa [cells, within] using found
  have within : row.nodeIndex < columnCount row := by
    rw [columnCount]
    omega
  constructor
  case length => simp [cells, columnCount]
  case node =>
    have found : (cells row)[row.nodeIndex]? = some (mark row.kind, nodeColor row) := by
      simp [cells, within, cell]
    rw [found]
    cases row.kind <;> rfl
  case lane =>
    intro index column found other
    rw [← listed found, cell, if_neg other]

/-- Every column is that of a lane or that of the commit. -/
theorem column_eq (style : Style) {index : Nat} (within : index < columnCount row) :
    style.column row index = style.paint (cell row index).2 [(cell row index).1] := by
  have rightmost : row.nodeIndex ≤ row.input.length := List.findIdx_le_length
  rw [Style.column, cell]
  split
  · rfl
  next other =>
    -- The commit is at most one column right of the lanes, so a column beside it has a lane.
    have lane : index < row.input.length := by
      rw [columnCount] at within
      omega
    rw [List.getElem?_eq_getElem lane]
    rfl

theorem columns_eq (style : Style) (row : Row) :
    style.columns row =
      joined [' '] ((cells row).map fun column => style.paint column.2 [column.1]) := by
  rw [Style.columns, cells, List.map_map]
  congr 1
  refine List.map_congr_left fun index listed => ?_
  exact column_eq style (List.mem_range.mp listed)

/-- The columns come first, and two blanks follow. -/
theorem columns_prefix_rowText (style : Style) (row : Row) :
    style.columns row ++ [' ', ' '] <+: style.rowText row := by
  simp only [Style.rowText, List.append_assoc]
  exact ⟨_, List.append_assoc _ _ _⟩

/-! ### The layout -/

/-- The text of a tree is cut at its line feeds into the texts of its lines, and nothing is left
behind the last of them. The text of a row begins with its columns. Removing the escape sequences of
the coloured text leaves the plain text. -/
theorem treeText_layout {lines : List TreeLine} (shown : lines ≠ [])
    (unbroken : ∀ line ∈ lines, ∀ name ∈ line.names, '\n' ∉ name.toList) :
    (∀ style : Style, splitOn '\n' (style.treeText lines) = lines.map style.lineText ++ [[]]) ∧
    (∀ id row, TreeLine.row id row ∈ lines → ∃ columns, Drawn row columns ∧ ∀ style : Style,
      joined [' '] (columns.map fun column => style.paint column.2 [column.1]) ++ [' ', ' '] <+:
        style.lineText (.row id row)) ∧
    ((∀ line ∈ lines, ∀ text ∈ line.texts, '\x1b' ∉ text.toList) →
      withoutEscapes (Style.colored.treeText lines) = Style.plain.treeText lines) := by
  refine ⟨fun style => ?_, fun id row _ => ?_, fun absent => ?_⟩
  · have closed : style.treeText lines = (lines.map style.lineText).flatMap (· ++ ['\n']) := by
      rw [Style.treeText, if_neg (by simpa using shown), List.flatMap_map]
    rw [closed]
    refine splitOn_flatMap_append fun text listed => ?_
    obtain ⟨line, member, rfl⟩ := List.mem_map.mp listed
    exact newline_not_mem_lineText style (unbroken line member)
  · refine ⟨cells row, drawn_cells row, fun style => ?_⟩
    rw [← columns_eq]
    exact columns_prefix_rowText style row
  · exact (decorated_treeText .colored lines).withoutEscapes_eq (escape_not_mem_treeText absent)

/-- The row of a commit between two lanes, with labels and statistics. -/
def busyRow : Row where
  commit :=
    { id := "0123456789", parents := ["c2"], message := "merge\n\nbody", author := "dev"
      email := none, time := ⟨0, 0⟩, statistics := some ⟨1, 2, 3⟩, labels := [] }
  kind := .head
  input := [⟨"c2", .lane 0⟩, ⟨"0123456789", .branch⟩, ⟨"c3", .lane 7⟩]
  output := [⟨"c2", .lane 0⟩]
  labels := [⟨⟨"main", .branch⟩, some .branch⟩, ⟨⟨"v1", .tag⟩, none⟩]

/-- The row, and a line that offers more. -/
def busyTree : List TreeLine := [.row ⟨"repo"⟩ busyRow, .more ⟨"repo"⟩]

theorem treeText_layout_busyTree :
    (busyTree ≠ [] ∧ (∀ line ∈ busyTree, ∀ name ∈ line.names, '\n' ∉ name.toList) ∧
      (∀ line ∈ busyTree, ∀ text ∈ line.texts, '\x1b' ∉ text.toList) ∧
      TreeLine.row ⟨"repo"⟩ busyRow ∈ busyTree) ∧
    splitOn '\n' (Style.colored.treeText busyTree) = busyTree.map Style.colored.lineText ++ [[]] ∧
    (∃ columns, Drawn busyRow columns ∧ ∀ style : Style,
      joined [' '] (columns.map fun column => style.paint column.2 [column.1]) ++ [' ', ' '] <+:
        style.lineText (.row ⟨"repo"⟩ busyRow)) ∧
    withoutEscapes (Style.colored.treeText busyTree) =
      ("| @ |  01234567 (main, v1) merge - dev, 1970-01-01 00:00 [+2 -3]\n" ++
        "⋯  more history available (use --pages to load more)\n").toList := by
  have shown : busyTree ≠ [] := by decide
  have unbroken : ∀ line ∈ busyTree, ∀ name ∈ line.names, '\n' ∉ name.toList := by decide
  have absent : ∀ line ∈ busyTree, ∀ text ∈ line.texts, '\x1b' ∉ text.toList := by decide
  have member : TreeLine.row ⟨"repo"⟩ busyRow ∈ busyTree := List.mem_cons_self
  obtain ⟨cut, drawn, painted⟩ := treeText_layout shown unbroken
  exact ⟨⟨shown, unbroken, absent, member⟩, cut .colored, drawn _ _ member,
    (painted absent).trans (by decide +kernel)⟩

end Report

end CommitHistory
