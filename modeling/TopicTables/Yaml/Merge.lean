import TopicTables.Yaml.Node
import TopicTables.Yaml.Scalar

/-! Merge keys.

A merge key brings the entries of another mapping into its own, or those of several
mappings, of which an earlier one overrides a later one. The entries that are brought in
come first, so that a mapping's own entries override them. A mapping is settled when its
merge keys are gone; settling it settles what it merges, and from then on the mark of a
default value is a text. -/
namespace TopicTables.Yaml

/-- A step that changes nodes. -/
abbrev Merge := StateT Nodes (Except ValueFault)

namespace Merge

/-- The entries of the mapping of a number. -/
def entries (n : Nat) : Merge (List (Nat × Nat)) := do
  match (← get).content n with
  | .mapping entries => return entries
  | _ => throw .unsupported

/-- Sets the entries of the mapping of a number. -/
def setEntries (n : Nat) (entries : List (Nat × Nat)) : Merge Unit :=
  modify (·.setContent n (.mapping entries))

/-- Takes the first merge key out of a mapping and answers the node that it merges. -/
def takeFirst? (n : Nat) : Merge (Option Nat) := do
  let nodes ← get
  let isMerge (e : Nat × Nat) : Bool := nodes.tag e.1 = .merge
  let es ← entries n
  match es.find? isMerge with
  | some e =>
    setEntries n (es.eraseP isMerge)
    return some e.2
  | none => return none

/-- Makes texts of the keys that mark a default value. -/
def settleKeys (keys : List Nat) : Merge Unit :=
  modify fun nodes => keys.foldl (fun nodes k =>
    if nodes.tag k = .value then nodes.setTag k .str else nodes) nodes

mutual

/-- Settles the mapping of a number, below which so many mappings may be entered. Three
rounds for each merge key, and three more, are enough. -/
def settle (room n : Nat) : Nat → Merge Unit
  | 0 => throw .unsupported
  | fuel + 1 => do
    if room = 0 then throw .mergeTooDeep
    let merged ← mergeAll (room - 1) n fuel
    let own ← entries n
    settleKeys (own.map Prod.fst)
    setEntries n (merged ++ own)

/-- Takes all merge keys out of a mapping, and answers the entries that they bring in. -/
def mergeAll (room n : Nat) : Nat → Merge (List (Nat × Nat))
  | 0 => throw .unsupported
  | fuel + 1 => do
    match ← takeFirst? n with
    | some source =>
      let taken ← mergeSource room source fuel
      return taken ++ (← mergeAll room n fuel)
    | none => return []

/-- The entries that a merged node brings in. -/
def mergeSource (room source : Nat) : Nat → Merge (List (Nat × Nat))
  | 0 => throw .unsupported
  | fuel + 1 => do
    match (← get).content source with
    | .sequence items =>
      let parts ← items.mapM fun item => do
        settle room item fuel
        entries item
      return parts.reverse.flatten
    | _ =>
      settle room source fuel
      entries source

end

end Merge

end TopicTables.Yaml
