import TopicTables.Yaml.Merge

/-! What the nodes of a document amount to.

A part is a scalar, or a collection that holds other parts by the numbers of their nodes.
A collection is made empty and filled later: collections are filled in the order in which
they were made, so of several faults the one that lies least deep comes first, and an
alias inside a collection that it names finds it made. -/
namespace TopicTables.Yaml

/-- A scalar as a key. Not-a-number is the same key where it has one identity. -/
structure Key where
  scalar : Scalar
  identity : Nat

/-- The two keys are one. -/
def Key.same (a b : Key) : Bool :=
  a.scalar.sameKey b.scalar
    || (a.scalar = .float .nan && b.scalar = .float .nan && a.identity = b.identity)

/-- What a node amounts to. -/
inductive Part where
  | scalar (key : Key)
  | list (items : List Nat)
  | map (entries : List (Key × Nat))
  | set (members : List Key)
  /-- A list of pairs. -/
  | pairs (pairs : List (Nat × Nat))

/-- The parts of a document by the numbers of their nodes, as far as they were made. -/
abbrev Parts := Array (Option Part)

/-- The nodes of a document, as far as they are settled, and the parts that were made of
them, with the collections among these in the order in which they were made. -/
structure Assembly where
  nodes : Nodes
  parts : Parts
  collections : Array Nat
  /-- How many nodes may be entered one inside the other. -/
  room : Nat
  /-- How many rounds settling a mapping may take. -/
  rounds : Nat

/-- A step of making parts. -/
abbrev Assemble := StateT Assembly (Except ValueFault)

namespace Assemble

/-- Gives up on a node that its tag does not fit. -/
def unsupported {α : Type} : Assemble α := throw .unsupported

/-- Sets the part of a node. -/
def put (n : Nat) (p : Part) : Assemble Unit :=
  modify fun a => { a with parts := a.parts.setIfInBounds n (some p) }

/-- Makes an empty collection of a node, to be filled in its turn. -/
def start (n : Nat) (p : Part) : Assemble Part := do
  put n p
  modify fun a => { a with collections := a.collections.push n }
  return p

/-- The text of a node that should be a scalar, below which so many nodes may be entered. A
mapping stands for the value under its mark of a default value. -/
def scalarText (nodes : Nodes) : Nat → Nat → Except ValueFault Text
  | 0, _ => throw .endless
  | room + 1, n => match nodes.content n with
    | .scalar t => return t
    | .sequence _ => throw .unsupported
    | .mapping entries => match entries.find? fun e => nodes.tag e.1 = .value with
      | some e => scalarText nodes room e.2
      | none => throw .unsupported

/-- The scalar of a node, as a key. The word for not-a-number names one key, and any other
not-a-number is a key of its own. -/
def scalarKey (nodes : Nodes) (room n : Nat) : Except ValueFault Key := do
  let t ← scalarText nodes room n
  let tag := nodes.tag n
  if tag = .timestamp then
    if let .mapping _ := nodes.content n then throw .timestampOfMapping
  return ⟨← scalarOf tag t, if tag = .float ∧ isNanWord t then 0 else n + 1⟩

/-- The part of a node, which is made if it is not there. -/
def part (n : Nat) : Assemble Part := do
  let a ← get
  match a.parts[n]?.join with
  | some p => return p
  | none => match a.nodes.tag n with
    | .seq => start n (.list [])
    | .map => start n (.map [])
    | .set => start n (.set [])
    | .omap | .pairs => start n (.pairs [])
    | .merge | .value | .unknown => unsupported
    | _ => do
      let p := Part.scalar (← scalarKey a.nodes a.room n)
      put n p
      return p

/-- The node as a key; a collection cannot be one. -/
def key (n : Nat) : Assemble Key := do
  match ← part n with
  | .scalar k => return k
  | _ => unsupported

/-- Makes the keys and values of a mapping, and answers its entries. -/
def entries (n : Nat) : Assemble (List (Key × Nat)) := do
  let a ← get
  let ((), nodes) ← (Merge.settle a.room n a.rounds).run a.nodes
  set { a with nodes }
  match nodes.content n with
  | .mapping es => es.foldlM (fun entries e => do
      let k ← key e.1
      let _ ← part e.2
      return putEntry Key.same entries k e.2) []
  | _ => unsupported

/-- Makes the items of a sequence, and answers them. -/
def items (n : Nat) : Assemble (List Nat) := do
  match (← get).nodes.content n with
  | .sequence items =>
    items.forM fun item => discard (part item)
    return items
  | _ => unsupported

/-- Makes the parts of a mapping of one entry, and answers them. -/
def onlyEntry (n : Nat) : Assemble (Nat × Nat) := do
  match (← get).nodes.content n with
  | .mapping [(k, v)] =>
    let _ ← part k
    let _ ← part v
    return (k, v)
  | _ => unsupported

/-- Fills the collection of a node. -/
def fill (n : Nat) : Assemble Unit := do
  match (← get).nodes.tag n with
  | .seq => put n (.list (← items n))
  | .map => put n (.map (← entries n))
  | .set => put n (.set ((← entries n).map Prod.fst))
  | _ => match (← get).nodes.content n with
    | .sequence items => put n (.pairs (← items.mapM onlyEntry))
    | _ => unsupported

/-- Fills the collections from a position on, those that are made on the way included. -/
def fillFrom (position : Nat) : Nat → Assemble Unit
  | 0 => return
  | fuel + 1 => do
    match (← get).collections[position]? with
    | some n =>
      fill n
      fillFrom (position + 1) fuel
    | none => return

end Assemble

/-- The parts of a document whose nodes are entered no deeper than there is room. Every node
is filled once at most. -/
def Document.parts (room : Nat) (d : Document) : Except ValueFault Parts := do
  let build : Assemble Unit := do
    let _ ← Assemble.part d.root
    Assemble.fillFrom 0 (d.nodes.size + 1)
  let ((), a) ← build.run
    ⟨d.nodes, Array.replicate d.nodes.size none, #[], room, 3 * d.nodes.entryCount + 3⟩
  return a.parts

end TopicTables.Yaml
