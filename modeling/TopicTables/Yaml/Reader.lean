import TopicTables.Yaml.Looks
import TopicTables.Yaml.Node
import TopicTables.Yaml.Token

/-! From tokens to nodes.

A node is added before its parts are read and its anchor is known from then on, so that an
alias may lead back to it. A document holds at most one tree, and nothing but document
ends may follow it. -/
namespace TopicTables.Yaml

/-- What is known while tokens are read: those that are left and the fault behind them,
what handles stand for, the nodes so far with their anchors, and how many collections are
open. -/
structure Reader where
  tokens : List Token
  fault : Option SyntaxFault
  handles : List (Text × Text)
  anchors : List (Text × Nat)
  nodes : Nodes
  depth : Nat

/-- A step of reading tokens. -/
abbrev Read := StateT Reader (Except SyntaxFault)

namespace Read

/-- Gives up on a malformed document. -/
def fail {α : Type} : Read α := throw .malformed

/-- The next token; a fault counts when it comes next. -/
def next : Read (Option Token) := do
  match (← get).tokens, (← get).fault with
  | t :: _, _ => return some t
  | [], some fault => throw fault
  | [], none => return none

/-- Passes over a token. -/
def advance : Read Unit := modify fun r => { r with tokens := r.tokens.tail }

/-- Passes over the token if it comes next, and tells whether it did. -/
def accept (t : Token) : Read Bool := do
  if (← next) = some t then
    advance
    return true
  else return false

/-- Passes over the token, which must come next. -/
def expect (t : Token) : Read Unit := do
  if !(← accept t) then fail

/-- The full name of a tag. -/
def tagName (handle : Option Text) (suffix : Text) : Read Text := do
  match handle with
  | none => return suffix
  | some h => match (← get).handles.find? (·.1 = h) with
    | some e => return e.2 ++ suffix
    | none => fail

/-- Takes an anchor, if one comes next. -/
def anchor? : Read (Option Text) := do
  match ← next with
  | some (.anchor name) =>
    advance
    return some name
  | _ => return none

/-- Takes a tag, if one comes next: its handle and suffix. -/
def tag? : Read (Option (Option Text × Text)) := do
  match ← next with
  | some (.tag handle suffix) =>
    advance
    return some (handle, suffix)
  | _ => return none

/-- Takes an anchor and a tag, in either order. -/
def properties : Read (Option Text × Option Text) := do
  let (anchor, tag) ← match ← anchor? with
    | some name => pure (some name, ← tag?)
    | none => do
      let t ← tag?
      pure (← if t.isSome then anchor? else pure none, t)
  match tag with
  | some (handle, suffix) => return (anchor, some (← tagName handle suffix))
  | none => return (anchor, none)

/-- The node that an anchor names. -/
def aliased (name : Text) : Read Nat := do
  match (← get).anchors.find? (·.1 = name) with
  | some e => return e.2
  | none => fail

/-- Adds a node under an anchor, which must be new. -/
def add (anchor : Option Text) (tag : Tag) (content : Content) : Read Nat := do
  let r ← get
  if anchor.any fun name => r.anchors.any (·.1 = name) then fail
  let n := r.nodes.size
  let named := (anchor.map fun name => (name, n)).toList
  set { r with nodes := r.nodes.push ⟨tag, content⟩, anchors := named ++ r.anchors }
  return n

/-- Adds the scalar of nothing. -/
def addEmpty : Read Nat := add none (.ofLooks []) (.scalar [])

/-- The greatest number of collections that may stand in each other. -/
def maxDepth : Nat := 490

/-- Adds a collection and fills it with what is read behind its first token. -/
def addCollection (anchor : Option Text) (tag : Tag) (parts : Read Content) : Read Nat := do
  if (← get).depth ≥ maxDepth then throw .tooDeep
  let n ← add anchor tag (.sequence [])
  modify fun r => { r with depth := r.depth + 1 }
  let content ← parts
  modify fun r => { r with nodes := r.nodes.setContent n content, depth := r.depth - 1 }
  return n

/-- The tag of a collection: a lone exclamation mark says nothing. -/
def collectionTag (name : Option Text) (default : Tag) : Tag :=
  match name with
  | none => default
  | some ['!'] => default
  | some name => .ofName name

/-- The tag of a scalar. A plain one without a tag, or one with a lone exclamation mark,
is what its text looks like. -/
def scalarTag (name : Option Text) (plain : Bool) (t : Text) : Tag :=
  match name with
  | none => if plain then .ofLooks t else .str
  | some ['!'] => .ofLooks t
  | some name => .ofName name

/-- An item of a block sequence ends here. -/
def endsItem : Token → Bool
  | .blockEntry | .blockEnd => true
  | _ => false

/-- An item of a sequence whose dashes are not indented ends here. -/
def endsIndentlessItem : Token → Bool
  | .blockEntry | .key | .value | .blockEnd => true
  | _ => false

/-- A key or value of a block mapping ends here. -/
def endsEntryPart : Token → Bool
  | .key | .value | .blockEnd => true
  | _ => false

/-- A key or value of a bracketed collection ends here. -/
def endsFlowPart : Token → Bool
  | .value | .flowEntry | .flowSequenceEnd | .flowMappingEnd => true
  | _ => false

/-- A document has no content in front of this. -/
def endsContent : Token → Bool
  | .directive _ | .documentStart | .documentEnd => true
  | _ => false

mutual

/-- Takes a node. In a block it may be a block collection, and where `indentless` holds
also a sequence whose dashes are not indented. -/
def node (block indentless : Bool) : Nat → Read Nat
  | 0 => fail
  | fuel + 1 => do
    if let some (.alias name) ← next then
      advance
      aliased name
    else
      let (anchor, tag) ← properties
      match ← next with
      | some .blockEntry =>
        if indentless then
          addCollection anchor (collectionTag tag .seq)
            (.sequence <$> indentlessItems fuel)
        else nothing anchor tag
      | some (.scalar t plain) =>
        advance
        add anchor (scalarTag tag plain t) (.scalar t)
      | some .flowSequenceStart =>
        advance
        addCollection anchor (collectionTag tag .seq)
          (.sequence <$> flowItems true fuel)
      | some .flowMappingStart =>
        advance
        addCollection anchor (collectionTag tag .map)
          (.mapping <$> flowEntries true fuel)
      | some .blockSequenceStart =>
        if block then
          advance
          addCollection anchor (collectionTag tag .seq)
            (.sequence <$> blockItems fuel)
        else nothing anchor tag
      | some .blockMappingStart =>
        if block then
          advance
          addCollection anchor (collectionTag tag .map)
            (.mapping <$> blockEntries fuel)
        else nothing anchor tag
      | _ => nothing anchor tag
where
  /-- An anchor or a tag may stand before nothing. -/
  nothing (anchor tag : Option Text) : Read Nat :=
    if anchor.isSome || tag.isSome then add anchor (scalarTag tag true []) (.scalar []) else fail

/-- Takes a node unless it ends before it starts. -/
def nodeUnless (ends : Token → Bool) (block indentless : Bool) : Nat → Read Nat
  | 0 => fail
  | fuel + 1 => do
    match ← next with
    | some t => if ends t then addEmpty else node block indentless fuel
    | none => addEmpty

/-- Takes the items of a block sequence and its end. -/
def blockItems : Nat → Read (List Nat)
  | 0 => fail
  | fuel + 1 => do
    if ← accept .blockEntry then
      let item ← nodeUnless endsItem true false fuel
      return item :: (← blockItems fuel)
    else
      expect .blockEnd
      return []

/-- Takes the items of a sequence whose dashes are not indented. -/
def indentlessItems : Nat → Read (List Nat)
  | 0 => fail
  | fuel + 1 => do
    if ← accept .blockEntry then
      let item ← nodeUnless endsIndentlessItem true false fuel
      return item :: (← indentlessItems fuel)
    else return []

/-- Takes the entries of a block mapping and its end. -/
def blockEntries : Nat → Read (List (Nat × Nat))
  | 0 => fail
  | fuel + 1 => do
    if ← accept .key then
      let k ← nodeUnless endsEntryPart true true fuel
      let v ← if ← accept .value then nodeUnless endsEntryPart true true fuel else addEmpty
      return (k, v) :: (← blockEntries fuel)
    else
      expect .blockEnd
      return []

/-- Takes an entry of a bracketed collection behind its key token. -/
def flowEntry : Nat → Read (Nat × Nat)
  | 0 => fail
  | fuel + 1 => do
    let k ← nodeUnless endsFlowPart false false fuel
    let v ← if ← accept .value then nodeUnless endsFlowPart false false fuel else addEmpty
    return (k, v)

/-- Takes the items of a bracketed sequence and its end. An item may be a single entry of
a mapping. -/
def flowItems (first : Bool) : Nat → Read (List Nat)
  | 0 => fail
  | fuel + 1 => do
    if ← accept .flowSequenceEnd then return []
    if !first then expect .flowEntry
    if ← accept .flowSequenceEnd then return []
    let item ← if ← accept .key then
        addCollection none .map do return .mapping [← flowEntry fuel]
      else node false false fuel
    return item :: (← flowItems false fuel)

/-- Takes the entries of a bracketed mapping and its end. A key may stand alone. -/
def flowEntries (first : Bool) : Nat → Read (List (Nat × Nat))
  | 0 => fail
  | fuel + 1 => do
    if ← accept .flowMappingEnd then return []
    if !first then expect .flowEntry
    if ← accept .flowMappingEnd then return []
    let entry ← if ← accept .key then flowEntry fuel
      else do
        let k ← node false false fuel
        pure (k, ← addEmpty)
    return entry :: (← flowEntries false fuel)

end

/-- The handles that every document knows. -/
def knownHandles : List (Text × Text) := [(['!'], ['!']), (['!', '!'], basicTag)]

/-- Takes the directives of a document: at most one version, which must be 1, and at most
one meaning for each handle. -/
def directives (versioned : Bool) (handles : List (Text × Text)) :
    Nat → Read (List (Text × Text))
  | 0 => fail
  | fuel + 1 => do
    match ← next with
    | some (.directive (.yaml major)) =>
      if versioned || major ≠ 1 then fail
      advance
      directives true handles fuel
    | some (.directive (.tag h expansion)) =>
      if handles.any (·.1 = h) then fail
      advance
      directives versioned ((h, expansion) :: handles) fuel
    | some (.directive .other) =>
      advance
      directives versioned handles fuel
    | _ => return handles

/-- Takes directives and the mark of a document's start. -/
def prologue (fuel : Nat) : Read Unit := do
  let handles ← directives false [] fuel
  expect .documentStart
  modify fun r => { r with handles := handles ++ knownHandles }

/-- Passes over marks of a document's end. -/
def skipEnds : Nat → Read Unit
  | 0 => fail
  | fuel + 1 => do
    if ← accept .documentEnd then skipEnds fuel

/-- Takes a document: the number of its root, or nothing at all. -/
def document (fuel : Nat) : Read (Option Nat) := do
  match ← next with
  | none => return none
  | some t =>
    let root ← match t with
      | .directive _ | .documentStart => do
        prologue fuel
        nodeUnless endsContent true false fuel
      | _ => node true false fuel
    skipEnds fuel
    if (← next).isSome then
      prologue fuel
      fail
    return some root

end Read

/-- The document of tokens, unless it is empty. -/
def Document.ofTokens? (stream : TokenStream) : Except SyntaxFault (Option Document) := do
  let fuel := 4 * stream.tokens.length + 8
  let start := ⟨stream.tokens, stream.fault, Read.knownHandles, [], #[], 0⟩
  let (root, r) ← (Read.document fuel).run start
  return root.map fun root => ⟨r.nodes, root⟩

end TopicTables.Yaml
