import TopicTables.Yaml.Tag

/-! The nodes of a document.

A node is a scalar, a sequence or a mapping, and has a tag. An alias is the very node that
its anchor names, so nodes are numbered and hold each other by their numbers; a node may
even be a part of itself. -/
namespace TopicTables.Yaml

/-- What a node holds. -/
inductive Content where
  | scalar (text : Text)
  | sequence (items : List Nat)
  | mapping (entries : List (Nat × Nat))
  deriving DecidableEq, Repr, Inhabited

/-- A part of a document. -/
structure Node where
  tag : Tag
  content : Content
  deriving DecidableEq, Repr

/-- The nodes of a document by their numbers. -/
abbrev Nodes := Array Node

namespace Nodes

/-- What the node of a number holds. -/
def content (nodes : Nodes) (n : Nat) : Content :=
  match nodes[n]? with
  | some node => node.content
  | none => .scalar []

/-- The tag of the node of a number. -/
def tag (nodes : Nodes) (n : Nat) : Tag :=
  match nodes[n]? with
  | some node => node.tag
  | none => .unknown

/-- The nodes with something else in one of them. -/
def setContent (nodes : Nodes) (n : Nat) (content : Content) : Nodes :=
  nodes.modify n fun node => { node with content }

/-- The nodes with another tag on one of them. -/
def setTag (nodes : Nodes) (n : Nat) (tag : Tag) : Nodes :=
  nodes.modify n fun node => { node with tag }

/-- How many entries the mappings of a document have. -/
def entryCount (nodes : Nodes) : Nat :=
  nodes.foldl (fun count node => match node.content with
    | .mapping entries => count + entries.length
    | _ => count) 0

end Nodes

/-- A document that is not empty. -/
structure Document where
  nodes : Nodes
  root : Nat

end TopicTables.Yaml
