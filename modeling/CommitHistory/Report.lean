/-
# Reports

A report is written as text for people or as JSON for programs.
-/

import CommitHistory.Fault
import CommitHistory.Text.Lines

namespace CommitHistory.Report

/-- The form in which a report is written. -/
inductive Format where
  | text
  | json
deriving DecidableEq, Repr

/-- The form that a text names in large or small letters. -/
def Format.parse (text : String) : Except Fault Format :=
  match Text.toLowerAscii text with
  | "text" => .ok .text
  | "json" => .ok .json
  | other => .error (.configuration ("不支持的输出格式: " ++ other))

end CommitHistory.Report
