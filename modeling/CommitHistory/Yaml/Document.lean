/-
# Reading YAML documents

A text holds at most one document. Its node is built from tokens; where a node is
expected and nothing is written, an empty scalar stands.

Nodes with names are kept in slots. The slot of a node has the number of names that
are known before it. A name that is given again moves to such a slot too, where the next
new name takes its place.

## Main definitions

* `Reading` — reading from the front of the tokens.
* `Reading.node` — a node with its properties.
* `Document.read?` — the document of a text.
-/

import CommitHistory.Table
import CommitHistory.Yaml.Node
import CommitHistory.Yaml.Token.Lexer

namespace CommitHistory.Yaml

open Text

/-- What is known while a document is read. -/
structure Source where
  tokens : List Token
  /-- What handles of tags stand for. -/
  handles : List Tag.Written
  /-- The slots of names. -/
  names : Table (List Char) Nat
  /-- The slots in the order in which their nodes began, the last one first. -/
  slots : List Nat
  /-- Nodes under the numbers of their slots in that order. -/
  nodes : List (Nat × Node)

/-- Reading from the front of the tokens. -/
abbrev Reading : Type → Type := StateT Source Option

namespace Reading

/-- The next token. -/
def peek : Reading (Option Token) := do return (← get).tokens.head?

/-- Passes over the next token. -/
def skip : Reading Unit := modify fun source => { source with tokens := source.tokens.tail }

/-- Whether the next token is of a kind. -/
def sees (isKind : Token → Bool) : Reading Bool := do return (← peek).any isKind

/-- Passes over the next token if it is of a kind. -/
def accepts (isKind : Token → Bool) : Reading Bool := do
  if ← sees isKind then
    skip
    return true
  else return false

/-- What stands before a node: the name that it gets, and its tag. -/
structure Properties where
  anchor : Option (List Char)
  tag : Option Tag

/-- The tag that is written, if its handle is known. -/
def tagOf (written : Tag.Written) : Reading Tag := do
  if written.handle.isEmpty then return .ofBytes written.bytes
  else
    match (← get).handles.find? fun setting => setting.handle = written.handle with
    | some setting => return .ofBytes (setting.bytes ++ written.bytes)
    | none => failure

/-- Reads a name, if there is one. -/
def anchor? : Reading (Option (List Char)) := do
  match ← peek with
  | some (.anchor name) =>
    skip
    return some name
  | _ => return none

/-- Reads a tag, if there is one. -/
def tag? : Reading (Option Tag) := do
  match ← peek with
  | some (.tag written) =>
    skip
    return some (← tagOf written)
  | _ => return none

/-- Reads a name and a tag, in any order. -/
def properties : Reading Properties := do
  match ← anchor? with
  | some name => return { anchor := some name, tag := ← tag? }
  | none =>
    let tag ← tag?
    let anchor ← if tag.isSome then anchor? else pure none
    return { anchor, tag }

/-- Gives a name to the node that begins here. The result is the place of its slot in order. -/
def begin (name : List Char) : Reading Nat := do
  let source ← get
  let slot := source.names.entries.length
  set { source with names := source.names.put name slot, slots := slot :: source.slots }
  return source.slots.length

/-- Keeps a node in its slot. -/
def keep (place : Nat) (node : Node) : Reading Unit :=
  modify fun source => { source with nodes := (place, node) :: source.nodes }

/-- The reference to a name. -/
def reference (name : List Char) : Reading Node := do
  match (← get).names.get? name with
  | some slot => return .reference slot
  | none => failure

/-- The tag of a scalar. The exclamation mark alone is none. -/
def scalarTag (tag : Option Tag) : Option Tag := tag.filter (· ≠ .named "!")

/-- The empty scalar, which needs properties where nothing else is written. -/
def emptyScalar (properties : Properties) : Reading Node :=
  if properties.anchor.isSome || properties.tag.isSome then
    return .scalar properties.tag .plain []
  else failure

/-- Passes over the comma before an item that is not the first. -/
def comma (isFirst : Bool) : Reading Unit := do
  if isFirst then pure ()
  else if ← accepts (· matches .comma) then pure ()
  else failure

mutual

/-- Reads a node. Only outside brackets it may be a block, and only where a value belongs to a
key its dashes need no block of their own. -/
def node (inBlock afterKey : Bool) : Nat → Reading Node
  | 0 => failure
  | bound + 1 => do
    match ← peek with
    | some (.alias name) =>
      skip
      reference name
    | _ =>
      let properties ← properties
      match properties.anchor with
      | none => content inBlock afterKey properties bound
      | some name =>
        let place ← begin name
        let node ← content inBlock afterKey properties bound
        keep place node
        return node

/-- Reads what stands behind the properties of a node. -/
def content (inBlock afterKey : Bool) (properties : Properties) : Nat → Reading Node
  | 0 => failure
  | bound + 1 => do
    match ← peek with
    | some (.scalar style text) =>
      skip
      return .scalar (scalarTag properties.tag) style text
    | some .openList =>
      skip
      return .list (← flowItems true bound)
    | some .openRecord =>
      skip
      return .record (← flowEntries true bound)
    | some .listStart =>
      if !inBlock then emptyScalar properties
      else
        skip
        return .list (← items bound)
    | some .recordStart =>
      if !inBlock then emptyScalar properties
      else
        skip
        return .record (← entries bound)
    | some .item =>
      if afterKey then return .list (← hangingItems bound)
      else emptyScalar properties
    | _ => emptyScalar properties

/-- Reads a node, unless a token of a kind comes first. -/
def nodeUnless (ends : Token → Bool) (inBlock afterKey : Bool) : Nat → Reading Node
  | 0 => failure
  | bound + 1 => do
    if ← sees ends then return .blank
    else node inBlock afterKey bound

/-- Reads the items of a list in a block. -/
def items : Nat → Reading (List Node)
  | 0 => failure
  | bound + 1 => do
    if ← accepts (· matches .item) then
      let first ← nodeUnless (· matches .item | .blockEnd) true false bound
      return first :: (← items bound)
    else if ← accepts (· matches .blockEnd) then return []
    else failure

/-- Reads the items of a list without a block of its own. -/
def hangingItems : Nat → Reading (List Node)
  | 0 => failure
  | bound + 1 => do
    if ← accepts (· matches .item) then
      let first ← nodeUnless (· matches .item | .key | .value | .blockEnd) true false bound
      return first :: (← hangingItems bound)
    else return []

/-- Reads the entries of a record in a block. -/
def entries : Nat → Reading (List (Node × Node))
  | 0 => failure
  | bound + 1 => do
    if ← accepts (· matches .key) then
      let key ← nodeUnless (· matches .key | .value | .blockEnd) true true bound
      let value ←
        if ← accepts (· matches .value) then
          nodeUnless (· matches .key | .value | .blockEnd) true true bound
        else pure .blank
      return (key, value) :: (← entries bound)
    else if ← accepts (· matches .blockEnd) then return []
    else failure

/-- Reads the items of a list in brackets. -/
def flowItems (isFirst : Bool) : Nat → Reading (List Node)
  | 0 => failure
  | bound + 1 => do
    if ← accepts (· matches .closeList) then return []
    else
      comma isFirst
      if ← accepts (· matches .key) then
        let pair ← pair bound
        return .record [pair] :: (← flowItems false bound)
      else if ← accepts (· matches .closeList) then return []
      else
        let first ← node false false bound
        return first :: (← flowItems false bound)

/-- Reads a key with its value among the items of a list. -/
def pair : Nat → Reading (Node × Node)
  | 0 => failure
  | bound + 1 => do
    let key ←
      -- Where no key is written, the next token is passed over, whatever it is.
      if ← accepts (· matches .value | .comma | .closeList) then pure .blank
      else node false false bound
    let value ←
      if ← accepts (· matches .value) then
        nodeUnless (· matches .comma | .closeList) false false bound
      else pure .blank
    return (key, value)

/-- Reads the entries of a record in braces. -/
def flowEntries (isFirst : Bool) : Nat → Reading (List (Node × Node))
  | 0 => failure
  | bound + 1 => do
    if ← accepts (· matches .closeRecord) then return []
    else
      comma isFirst
      if ← accepts (· matches .key) then
        let key ← nodeUnless (· matches .value | .comma | .closeRecord) false false bound
        let value ←
          if ← accepts (· matches .value) then
            nodeUnless (· matches .comma | .closeRecord) false false bound
          else pure .blank
        return (key, value) :: (← flowEntries false bound)
      else if ← accepts (· matches .closeRecord) then return []
      else
        let key ← node false false bound
        return (key, .blank) :: (← flowEntries false bound)

end

/-- Adds what a directive says. A version must be known, and neither it nor a handle may be set
twice. -/
def directive (hasVersion : Bool) : Token → Reading Bool
  | .version major minor =>
    if !hasVersion && major = 1 && (minor = 1 || minor = 2) then return true else failure
  | .handle setting => do
    if (← get).handles.any fun known => known.handle = setting.handle then failure
    else
      modify fun source => { source with handles := source.handles ++ [setting] }
      return hasVersion
  | _ => failure

/-- Reads the directives before a document. -/
def directives (hasVersion : Bool) : Nat → Reading Unit
  | 0 => failure
  | bound + 1 => do
    match ← peek with
    | some token =>
      if token matches .version _ _ | .handle _ then
        skip
        directives (← directive hasVersion token) bound
      else pure ()
    | none => pure ()

/-- The handles that need not be set. -/
def commonHandles : List Tag.Written :=
  [{ handle := ['!'], bytes := Utf8.encode ['!'] },
    { handle := ['!', '!'], bytes := Utf8.encode Tag.commonStart.toList }]

/-- Reads the node of a document. Behind a marker nothing need be written. -/
def root (bound : Nat) : Reading Node := do
  let isDirected ← sees (· matches .version _ _ | .handle _ | .documentStart)
  directives false bound
  modify fun source => { source with handles := source.handles ++ commonHandles }
  if isDirected then
    if !(← accepts (· matches .documentStart)) then failure
    else if (← peek).isNone then return .blank
    else
      nodeUnless (· matches .version _ _ | .handle _ | .documentStart | .documentEnd) true false
        bound
  else node true false bound

/-- Reads to the end, where only markers of the end of a document may stand. -/
def finish : Nat → Reading Unit
  | 0 => failure
  | bound + 1 => do
    if ← accepts (· matches .documentEnd) then finish bound
    else if (← peek).isNone then pure ()
    else failure

end Reading

/-- The nodes in slots. Of several nodes in one slot the one that began last counts. -/
def Source.inSlots (source : Source) : List (Nat × Node) :=
  source.slots.zipIdx.filterMap fun (slot, later) =>
    (source.nodes.lookup (source.slots.length - 1 - later)).map (slot, ·)

/-- The document of tokens. -/
def Document.ofTokens? (tokens : List Token) : Option Document :=
  if tokens.isEmpty then some { root := none, slots := [] }
  else
    let bound := 4 * tokens.length + 4
    let source : Source :=
      { tokens, handles := [], names := .empty, slots := [], nodes := [] }
    let reading : Reading Node := do
      let node ← Reading.root bound
      Reading.finish bound
      return node
    (reading.run source).map fun (node, source) => { root := some node, slots := source.inSlots }

/-- The document of a text, if it holds at most one. -/
def Document.read? (text : List Char) : Option Document :=
  (Token.ofText? text).bind Document.ofTokens?

end CommitHistory.Yaml
