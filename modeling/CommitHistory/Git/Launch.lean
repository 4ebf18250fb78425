/-
# Starting a program

Before git can answer, it has to start: its working directory must be there, and its
name must lead to a program. A name without a slash is searched for among the
programs of the system, any other name is a path from the working directory.
-/

import CommitHistory.Files.Directory
import CommitHistory.Git.Recorded

namespace CommitHistory.Git

open Files

/-- A recorded git with the name of its program and the files around it. -/
structure Installation where
  program : String
  recordings : List Recording
  files : Directory

namespace Installation

/-- A program with a text that a run is given cannot start if a text holds the null character. -/
def holdsNull (text : String) : Bool := text.toList.any (· == '\x00')

/-- Why a program cannot start in a directory, if it cannot. -/
def refusal? (installation : Installation) (program directory : String)
    (arguments : List String) : Option String :=
  if (program :: directory :: arguments).any holdsNull then
    some "nul byte found in provided data"
  else match installation.files.placeFrom .here directory,
      installation.files.look directory with
  -- The directory is entered before the program is looked for.
  | _, .error refusal => some refusal.message
  | _, .ok (.file _) => some Refusal.notADirectory.message
  | .error refusal, _ => some refusal.message
  | .ok place, .ok .directory =>
    if program = installation.program then none
    else if program.toList.contains '/' then
      match installation.files.lookFrom place program with
      | .error refusal => some refusal.message
      | .ok _ => some Refusal.denied.message
    else if Directory.nameLimit < Directory.sizeOf program.toList then
      some Refusal.tooLong.message
    else some Refusal.missing.message

/-- The outcome of running a program in a directory. -/
def run (installation : Installation) (program directory : String) (arguments : List String) :
    Outcome :=
  match installation.refusal? program directory arguments with
  | some reason => .notStarted reason
  | none => Recording.answer installation.recordings arguments

/-- The argument lists of those runs that started. -/
def started (installation : Installation) (program directory : String)
    (runs : List (List String)) : List (List String) :=
  runs.filter fun arguments => (installation.refusal? program directory arguments).isNone

end Installation

end CommitHistory.Git
