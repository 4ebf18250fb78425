/-
# Settings files

A settings file has one of three forms. Reading and writing fail as a whole: nothing is
taken from a text that cannot be read to its end.
-/

import CommitHistory.Settings.Format
import CommitHistory.Settings.Json
import CommitHistory.Settings.Toml
import CommitHistory.Settings.Yaml

namespace CommitHistory.Settings

/-- The wording for a text that is not in a form. -/
def Format.unreadable : Format → String
  | .toml => "TOML 解析错误"
  | .yaml => "YAML 解析错误"
  | .json => "JSON 解析错误"

/-- The settings that a text in a form describes, if it describes any. -/
def read? : Format → List Char → Option Settings
  | .toml, text => readToml? text
  | .yaml, text => readYaml? text
  | .json, text => readJson? text

/-- The settings that a text in a form describes. -/
def parse (format : Format) (text : List Char) : Except Fault Settings :=
  match read? format text with
  | some settings => .ok settings
  | none => .error (.configuration format.unreadable)

/-- Settings as a text in a form. -/
def render (settings : Settings) : Format → Except Fault (List Char)
  | .toml =>
    match settings.writeToml? with
    | some text => .ok text
    | none => .error (.configuration "TOML 序列化错误")
  | .yaml => .ok settings.writeYaml
  | .json => .ok settings.writeJson

end CommitHistory.Settings
