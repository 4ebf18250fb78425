/-
# The scope of a history

A history shows the commits of every reference, or only those of the lineage that is
checked out.
-/

import CommitHistory.Fault
import CommitHistory.Text.Lines

namespace CommitHistory

/-- Which commits a history shows. -/
inductive Scope where
  | all
  | lineage
deriving DecidableEq, Repr

namespace Scope

/-- The name of a scope. -/
def name : Scope → String
  | .all => "all"
  | .lineage => "auto"

/-- The scope that a name stands for. -/
def ofName? : String → Option Scope
  | "all" => some .all
  | "auto" => some .lineage
  | _ => none

/-- The scope that a text names in large or small letters. -/
def parse (text : String) : Except Fault Scope :=
  let lower := Text.toLowerAscii text
  match ofName? lower with
  | some scope => .ok scope
  | none => .error (.configuration ("不支持的历史过滤方式: " ++ lower))

end Scope

end CommitHistory
