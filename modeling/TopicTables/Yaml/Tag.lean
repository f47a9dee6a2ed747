import TopicTables.Text.Basic

/-! Tags: what the nodes of a document are meant to be. -/
namespace TopicTables.Yaml

/-- What a node is meant to be. -/
inductive Tag where
  | str
  | int
  | bool
  | float
  | null
  | timestamp
  | binary
  | merge
  | value
  | seq
  | map
  | set
  /-- An ordered map: a sequence of mappings with one entry each. -/
  | omap
  /-- An ordered map whose keys may repeat. -/
  | pairs
  /-- A tag that stands for nothing here. -/
  | unknown
  deriving DecidableEq, Repr

/-- How the tags of the basic types start. -/
def basicTag : Text := "tag:yaml.org,2002:".toList

/-- The tags of the basic types. -/
def basicTags : List (Text × Tag) :=
  [("str".toList, .str), ("int".toList, .int), ("bool".toList, .bool), ("float".toList, .float),
   ("null".toList, .null), ("timestamp".toList, .timestamp), ("binary".toList, .binary),
   ("merge".toList, .merge), ("value".toList, .value), ("seq".toList, .seq), ("map".toList, .map),
   ("set".toList, .set), ("omap".toList, .omap), ("pairs".toList, .pairs)]

/-- The tag with a full name. -/
def Tag.ofName (name : Text) : Tag :=
  match basicTags.find? fun t => basicTag ++ t.1 = name with
  | some t => t.2
  | none => .unknown

end TopicTables.Yaml
