/-
# A recorded git

A recorded git knows what to write for arguments that begin in certain ways. Of
several entries that fit the first one counts; where none fits the run fails.
-/

import CommitHistory.Git.Dialogue

namespace CommitHistory.Git

/-- What is written for arguments that begin with the given ones. -/
structure Recording where
  arguments : List String
  code : Option Int
  output : List UInt8
  errors : List UInt8
deriving DecidableEq, Repr

/-- The end of a run for which nothing is recorded. -/
def unrecorded : Outcome := .ended (some 1) [] (Text.Utf8.encode "fakegit: no entry\n".toList)

/-- How a recorded git answers. -/
def Recording.answer (recordings : List Recording) (arguments : List String) : Outcome :=
  match recordings.find? fun recording => recording.arguments.isPrefixOf arguments with
  | some recording => .ended recording.code recording.output recording.errors
  | none => unrecorded

end CommitHistory.Git
