/-
# Faults as JSON

A fault is a record with one field, which names the kind of fault and holds what is
known about it.
-/

import CommitHistory.Fault
import CommitHistory.Json.Value

namespace CommitHistory

open Json

namespace Fault

/-- The name of the kind of a fault. -/
def name : Fault → String
  | .configuration _ => "Configuration"
  | .files _ _ => "FileSystem"
  | .git _ _ _ => "GitCommand"
  | .unreadable _ _ => "Parsing"
  | .source _ _ => "Provider"
  | .unknownRepository _ => "RepositoryNotFound"

/-- What is known about a fault. -/
def details : Fault → List (String × Value)
  | .configuration detail => [("message", .text detail)]
  | .files detail path => [("message", .text detail), ("path", Value.ofText? path)]
  | .git command detail exitCode =>
    [("command", .text command), ("message", .text detail),
      ("exit_code", (exitCode.map Value.integer).getD .null)]
  | .unreadable detail contentType =>
    [("message", .text detail), ("content_type", .text contentType)]
  | .source name detail => [("provider", .text name), ("message", .text detail)]
  | .unknownRepository repository => [("repository", .text repository)]

/-- The record of a fault. -/
def toJson (fault : Fault) : Value := .record [(fault.name, .record fault.details)]

/-- A whole number of at most 32 bits with its sign. -/
def exitCode? : Value → Option Int
  | .integer n => if -2147483648 ≤ n ∧ n ≤ 2147483647 then some n else none
  | _ => none

/-- The fault of a named kind with the details that a record gives. -/
def ofDetails? (kind : String) (value : Value) : Option Fault :=
  match kind with
  | "Configuration" =>
    match value.slots? ["message"] with
    | some [detail] => (Value.need Value.text? detail).map .configuration
    | _ => none
  | "FileSystem" =>
    match value.slots? ["message", "path"] with
    | some [detail, path] => do
      some (.files (← Value.need Value.text? detail) (← Value.allow Value.text? path))
    | _ => none
  | "GitCommand" =>
    match value.slots? ["command", "message", "exit_code"] with
    | some [command, detail, exitCode] => do
      some (.git (← Value.need Value.text? command) (← Value.need Value.text? detail)
        (← Value.allow exitCode? exitCode))
    | _ => none
  | "Parsing" =>
    match value.slots? ["message", "content_type"] with
    | some [detail, contentType] => do
      some (.unreadable (← Value.need Value.text? detail) (← Value.need Value.text? contentType))
    | _ => none
  | "Provider" =>
    match value.slots? ["provider", "message"] with
    | some [name, detail] => do
      some (.source (← Value.need Value.text? name) (← Value.need Value.text? detail))
    | _ => none
  | "RepositoryNotFound" =>
    match value.slots? ["repository"] with
    | some [repository] => (Value.need Value.text? repository).map .unknownRepository
    | _ => none
  | _ => none

/-- The fault that a value describes. Its details must have names. -/
def ofJson? : Value → Option Fault
  | .record [(name, .record details)] => ofDetails? name (.record details)
  | _ => none

end Fault

/-- The name of a category of faults. -/
def Fault.Category.name : Fault.Category → String
  | .configuration => "Configuration"
  | .files => "IO"
  | .externalService => "ExternalService"
  | .data => "Data"

end CommitHistory
