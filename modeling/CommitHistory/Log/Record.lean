/-
# The log

Each commit of the log is a record. A record begins with a record separator and has
eight fields with field separators between them: identifier, parents, author, address,
seconds since 1970, decorations, message, and what the log prints after the message,
where a line may tell the size of the change. The last field keeps every further
field separator.
-/

import CommitHistory.Fault
import CommitHistory.Log.Decoration
import CommitHistory.Log.Shortstat

namespace CommitHistory.Log

open Text

/-- The character that begins a record. -/
def recordSeparator : Char := '\x1e'

/-- The character between two fields. -/
def fieldSeparator : Char := '\x1f'

/-- How many fields a record has. -/
def fieldCount : Nat := 8

/-- The format in which the log is asked for. -/
def format : String := "%x1e%H%x1f%P%x1f%aN%x1f%aE%x1f%at%x1f%D%x1f%B%x1f"

/-- Why a record cannot be read. -/
inductive Flaw where
  /-- The record has too few fields. -/
  | missingFields (found : Nat)
  /-- The time is no whole number of 64 bits. -/
  | badTime (text : String)
  /-- The time lies outside the calendar. -/
  | timeOutOfRange (seconds : Int)
deriving DecidableEq, Repr

/-- The wording of a flaw. -/
def Flaw.message : Flaw → String
  | .missingFields found =>
    "提交记录字段不足: 期望 " ++ toString fieldCount ++ "，实际 " ++ toString found
  | .badTime text => "无效的提交时间: " ++ text
  | .timeOutOfRange seconds => "提交时间超出范围: " ++ toString seconds

/-- A flaw as a fault. -/
def Flaw.fault (flaw : Flaw) : Fault := .unreadable flaw.message "git-log"

/-- The point in time that a field tells. -/
def timeOf (field : List Char) : Except Flaw Timestamp :=
  match Numeral.int64? (trim field) with
  | none => .error (.badTime (String.ofList field))
  | some seconds =>
    match Timestamp.ofSeconds? seconds with
    | none => .error (.timeOutOfRange seconds)
    | some time => .ok time

/-- The address of an author; a blank field tells none. -/
def emailOf (field : List Char) : Option String :=
  if (trim field).isEmpty then none else some (String.ofList (trim field))

/-- The commit that a record tells. -/
def parseRecord (record : List Char) : Except Flaw Commit :=
  match splitAtMost fieldSeparator (fieldCount - 1) record with
  | [id, parents, author, email, time, decorations, message, after] =>
    (timeOf time).map fun time =>
      { id := String.ofList (trim id)
        parents := (words parents).map String.ofList
        message := String.ofList (trim message)
        author := String.ofList (trim author)
        email := emailOf email
        time
        -- Only what the log prints itself is searched, never the message.
        statistics := (lines after).findSome? Shortstat.parse?
        labels := Decoration.parse decorations }
  | fields => .error (.missingFields fields.length)

/-- The commits that a log tells, in order. Blank records do not count. -/
def parse (text : List Char) : Except Flaw (List Commit) :=
  ((splitOn recordSeparator text).filter fun record => !(trim record).isEmpty).mapM parseRecord

end CommitHistory.Log
