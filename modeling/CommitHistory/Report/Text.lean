/-
# Reports as text

Each line of the tree is one line of text. It begins with the columns of the graph:
one for every lane that enters the row, and one for the commit. Colours, if they are
wanted, are escape sequences around the characters that they paint.

## Main definitions

* `Report.Style.paint` — a text with or without its colour.
* `Report.Style.columns` — the graph of one row.
* `Report.Style.treeText`, `Report.changesText` — the two reports.
-/

import CommitHistory.Change
import CommitHistory.Text.Numeral
import CommitHistory.Tree

namespace CommitHistory.Report

open Text

/-- The number of a colour in an escape sequence. -/
def colorCode : Color → List Char
  | .branch => ['9', '4']
  | .remote => ['9', '5']
  | .base => ['9', '3']
  | .neutral => ['9', '0']
  | .lane index =>
    match index % Color.rotation with
    | 0 => ['3', '2']
    | 1 => ['3', '6']
    | 2 => ['3', '3']
    | 3 => ['3', '5']
    | _ => ['3', '1']

/-- The escape sequence with a number. -/
def escapeSequence (code : List Char) : List Char := '\x1b' :: '[' :: code ++ ['m']

/-- Whether colours are shown. -/
inductive Style where
  | plain
  | colored
deriving DecidableEq, Repr

/-- A text in a colour, if there is one and colours are shown. -/
def Style.paint : Style → Option Color → List Char → List Char
  | .colored, some color, text =>
    escapeSequence (colorCode color) ++ text ++ escapeSequence ['0']
  | _, _, text => text

/-- Texts with a separator between them. -/
def joined (separator : List Char) (texts : List (List Char)) : List Char :=
  (texts.intersperse separator).flatten

/-- How many columns the graph of a row has. -/
def columnCount (row : Row) : Nat := max row.input.length (row.nodeIndex + 1)

/-- The mark of a commit. -/
def mark : RowKind → Char
  | .head => '@'
  | .node => '*'

/-- The colour of a commit: that of the lane it is on, or else of the lane it opens. -/
def nodeColor (row : Row) : Option Color :=
  (row.input[row.nodeIndex]?.or row.output[row.nodeIndex]?).map Lane.color

/-- One column of the graph of a row. -/
def Style.column (style : Style) (row : Row) (index : Nat) : List Char :=
  if index = row.nodeIndex then style.paint (nodeColor row) [mark row.kind]
  else match row.input[index]? with
    | some lane => style.paint (some lane.color) ['|']
    | none => [' ']

/-- The graph of a row. -/
def Style.columns (style : Style) (row : Row) : List Char :=
  joined [' '] ((List.range (columnCount row)).map (style.column row))

/-- The labels of a row in brackets, after a blank. -/
def Style.labelsText (style : Style) (row : Row) : List Char :=
  if row.labels.isEmpty then []
  else [' ', '('] ++
    joined [',', ' '] (row.labels.map fun colored =>
      style.paint colored.color colored.label.title.toList) ++ [')']

/-- The lines that a commit adds and takes away, after a blank. -/
def statisticsText : Option Statistics → List Char
  | none => []
  | some statistics =>
    " [+".toList ++ Numeral.ofNat statistics.insertions ++ " -".toList ++
      Numeral.ofNat statistics.deletions ++ [']']

/-- The text of a row. -/
def Style.rowText (style : Style) (row : Row) : List Char :=
  style.columns row ++ [' ', ' '] ++ row.commit.shortId.toList ++ style.labelsText row ++
    [' '] ++ row.commit.subject.toList ++ " - ".toList ++ row.commit.author.toList ++
    ", ".toList ++ row.commit.time.renderMinute ++ statisticsText row.commit.statistics

/-- The text of a line of the tree. -/
def Style.lineText (style : Style) : TreeLine → List Char
  | .row _ row => style.rowText row
  | .more _ => "⋯  more history available (use --pages to load more)".toList

/-- The text of a tree. -/
def Style.treeText (style : Style) (lines : List TreeLine) : List Char :=
  if lines.isEmpty then "No history items.\n".toList
  else lines.flatMap fun line => style.lineText line ++ ['\n']

/-- The text of a change. -/
def changeText (change : Change) : List Char :=
  change.kind.letter :: ' ' :: ' ' ::
    (match change.oldPath with
    | some old => old.toList ++ " -> ".toList ++ change.path.toList
    | none => change.path.toList)

/-- The text of a list of changes. -/
def changesText (changes : List Change) : List Char :=
  changes.flatMap fun change => changeText change ++ ['\n']

end CommitHistory.Report
