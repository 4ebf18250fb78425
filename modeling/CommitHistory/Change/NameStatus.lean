/-
# Lists of changed files

A list of changed files is a sequence of fields that NUL characters end. An entry is
a status field and one path, or a status field, the old path and the new path when
the file was renamed or copied. Empty fields do not count.
-/

import CommitHistory.Change
import CommitHistory.Text.Blank
import CommitHistory.Text.Lines

namespace CommitHistory.NameStatus

open Text

/-- Why a list of changed files cannot be read. -/
inductive Flaw where
  /-- A status begins with none of the seven letters. -/
  | unknownStatus (status : String)
  /-- A status ends the list. -/
  | missingPath (status : String)
  /-- A rename or a copy has its old path only. -/
  | missingNewPath (status : String)
deriving DecidableEq, Repr

/-- The wording of a flaw. -/
def Flaw.message : Flaw → String
  | .unknownStatus status => "未知的变更状态: " ++ status
  | .missingPath status => "状态 " ++ status ++ " 缺少路径"
  | .missingNewPath status => "状态 " ++ status ++ " 缺少目标路径"

/-- A flaw as a fault. -/
def Flaw.fault (flaw : Flaw) : Fault := .unreadable flaw.message "name-status"

/-- The kind that a status text stands for. -/
def kindOf (status : List Char) : Except Flaw ChangeKind :=
  match ChangeKind.ofStatus? status with
  | some kind => .ok kind
  | none => .error (.unknownStatus (String.ofList status))

/-- The fields of a text, without the empty ones. -/
def fields (text : List Char) : List (List Char) :=
  (splitOn '\x00' text).filter fun field => !field.isEmpty

/-- The entries that a sequence of fields makes up. -/
def entries : List (List Char) → Except Flaw (List Change)
  | [] => .ok []
  | status :: rest =>
    match kindOf (trim status), rest with
    | .error flaw, _ => .error flaw
    | .ok _, [] => .error (.missingPath (String.ofList status))
    | .ok kind, path :: rest =>
      if kind.hasOldPath then
        match rest with
        | [] => .error (.missingNewPath (String.ofList status))
        | newPath :: rest =>
          (entries rest).map (⟨String.ofList newPath, some (String.ofList path), kind⟩ :: ·)
      else (entries rest).map (⟨String.ofList path, none, kind⟩ :: ·)

/-- The changes that a text lists. -/
def parse (text : List Char) : Except Flaw (List Change) := entries (fields text)

end CommitHistory.NameStatus
