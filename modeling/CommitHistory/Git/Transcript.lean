/-
# Transcripts

A transcript is a JSON list of recorded runs. A run is a record of its arguments
(`args`), its exit code (`code`, 0 if it is missing), and what it wrote (`stdout`,
`stderr`). Bytes that are no text are written in hexadecimal digits (`stdout_hex`,
`stderr_hex`), and a run that a signal killed says so (`signal`).
-/

import CommitHistory.Git.Recorded
import CommitHistory.Json.Reader

namespace CommitHistory.Git

open Json Text

/-- The bytes that pairs of hexadecimal digits stand for. Other characters count as zero, and a
digit without a partner is passed over. -/
def hexBytes : List Char → List UInt8
  | high :: low :: rest =>
    let digit := fun c => (hexValue? c).getD 0
    UInt8.ofNat (digit high * 16 + digit low) :: hexBytes rest
  | _ => []

namespace Recording

/-- What a run wrote to one of its outputs. -/
def written (fields : List (String × Value)) (name : String) : List UInt8 :=
  match (fields.lookup (name ++ "_hex")).bind Value.text? with
  | some digits => hexBytes digits.toList
  | none => Utf8.encode ((((fields.lookup name).bind Value.text?).getD "").toList)

/-- The exit code of a run, unless a signal killed it. -/
def exitCode (fields : List (String × Value)) : Option Int :=
  if ((fields.lookup "signal").bind Value.bool?).getD false then none
  else match fields.lookup "code" with
    | some (.integer code) => some code
    | _ => some 0

/-- The recorded run that a record describes. -/
def ofJson? : Value → Option Recording
  | .record fields => do
    let arguments ← ((fields.lookup "args").getD (.list [])).items?
    some {
      arguments := ← arguments.mapM Value.text?
      code := exitCode fields
      output := written fields "stdout"
      errors := written fields "stderr" }
  | _ => none

/-- The recorded runs in a transcript. -/
def transcript? (text : List Char) : Option (List Recording) :=
  (read? text).bind (Value.listOf? ofJson?)

end Recording

end CommitHistory.Git
