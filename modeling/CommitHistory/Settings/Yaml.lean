/-
# Settings as YAML

Each section is a record. An empty section is one without values, and a text may be any
scalar. Whatever stands under names that are not known is passed over.
-/

import CommitHistory.Settings.Outline
import CommitHistory.Yaml.Document
import CommitHistory.Yaml.Scalar
import CommitHistory.Yaml.Writer

namespace CommitHistory.Settings

open Yaml

/-- The text of a scalar. -/
def yamlText? (document : Document) (node : Node) : Option (List Char) :=
  match document.resolve node with
  | .scalar _ _ text => some text
  | _ => none

/-- The values under names. A value that is not written stands for a record without entries. -/
def yamlFields? (document : Document) (names : List String) (node : Node) :
    Option (List (Option Node)) :=
  match document.resolve node with
  | .scalar _ .plain [] => some (names.map fun _ => none)
  | .record entries => do
    let known ← entries.mapM fun entry => (yamlText? document entry.1).map (·, entry.2)
    if names.any fun name => 1 < known.countP fun entry => entry.1 = name.toList then none
    else some (names.map fun name => known.lookup name.toList)
  | _ => none

/-- The name of a variant: a scalar, or a tag of one's own before nothing. -/
def yamlVariant? (document : Document) (node : Node) : Option String :=
  match document.resolve node with
  | .scalar tag style text =>
    match tag.bind Tag.text? with
    | some ('!' :: name) =>
      if style = .plain ∧ isNull text then
        some (String.ofList (if name.isEmpty then ['!'] else name))
      else none
    | _ => some (String.ofList text)
  | _ => none

/-- The tag for values of a type. -/
def commonTag (type : String) : Tag := .named (Tag.commonStart ++ type)

/-- What a function makes of a scalar that need not be a text: a plain one, or lines under the tag
of the type. -/
def ofTyped? {α : Type} (type : String) (read : List Char → Option α) (document : Document)
    (node : Node) : Option α :=
  match document.resolve node with
  | .scalar tag style text =>
    if style = .plain ∨ (style = .literal ∧ tag = some (commonTag type)) then read text else none
  | _ => none

/-- A text, or none where a plain scalar stands for nothing. Under the tag for nothing, no other
text may stand. -/
def yamlOptionalText? (document : Document) (node : Node) : Option (Option String) :=
  match document.resolve node with
  | .scalar tag .plain text =>
    let found := some (some (String.ofList text))
    match tag with
    | none => if isNull text then some none else found
    | some tag =>
      if tag ≠ commonTag "null" then found
      else if isNull text ∧ text ≠ [] then some none
      else none
  | .scalar _ _ text => some (some (String.ofList text))
  | _ => none

/-- How the nodes of a YAML document are taken apart. -/
def yamlDialect (document : Document) : Dialect Node :=
  { fields? := yamlFields? document
    count? := ofTyped? "int" count? document
    text? := fun node => (yamlText? document node).map String.ofList
    flag? := ofTyped? "bool" flag? document
    variant? := yamlVariant? document
    optionalText? := yamlOptionalText? document }

/-- The settings that a YAML document describes. A document without content describes the
defaults. -/
def ofYaml? (document : Document) : Option Settings :=
  match document.root with
  | none => some standard
  | some node => (yamlDialect document).read node

/-- The settings that a YAML text describes. -/
def readYaml? (text : List Char) : Option Settings := (Document.read? text).bind ofYaml?

/-- The YAML text of settings. -/
def writeYaml (settings : Settings) : List Char := write settings.outline

end CommitHistory.Settings
