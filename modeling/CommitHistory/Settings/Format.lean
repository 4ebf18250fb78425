/-
# Forms of a settings file

The ending of a file's name says which of three forms its text has.
-/

import CommitHistory.Fault
import CommitHistory.Files.Path

namespace CommitHistory.Settings

/-- The form of a settings file. -/
inductive Format where
  | toml
  | yaml
  | json
deriving DecidableEq, Repr

/-- The form that goes with the ending of a path. -/
def Format.ofPath (path : String) : Except Fault Format :=
  match (Files.extension? path).map String.ofList with
  | some "toml" => .ok .toml
  | some "yaml" => .ok .yaml
  | some "yml" => .ok .yaml
  | some "json" => .ok .json
  | _ => .error (.configuration ("不支持的配置文件格式: " ++ path))

end CommitHistory.Settings
