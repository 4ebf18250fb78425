/-
# YAML nodes

What a YAML document describes: scalars, lists and records. The keys of a record are
nodes as well. A node may have a name, and another node may be a mere reference to it;
references may lead to a node that they stand in.
-/

import CommitHistory.Yaml.Token

namespace CommitHistory.Yaml

/-- A node. -/
inductive Node where
  | scalar (tag : Option Tag) (style : Style) (text : List Char)
  | list (items : List Node)
  | record (entries : List (Node × Node))
  /-- The node in a slot. -/
  | reference (slot : Nat)

/-- The scalar that stands where nothing is written. -/
def Node.blank : Node := .scalar none .plain []

/-- A document: its node, unless it has no content, and the nodes in slots. -/
structure Document where
  root : Option Node
  slots : List (Nat × Node)

/-- The node that a node stands for. References lead to nodes that are none. -/
def Document.resolve (document : Document) : Node → Node
  | .reference slot => (document.slots.lookup slot).getD (.reference slot)
  | node => node

end CommitHistory.Yaml
