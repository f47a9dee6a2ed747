import TopicTables.Yaml.Lexer
import TopicTables.Yaml.Part
import TopicTables.Yaml.Reader
import TopicTables.Value.SetOrder

/-! The values of a document.

The parts of a document unfold into values. A part may be met on the way into itself: a
collection that lies inside of itself is shown once more and not entered again. The maps
from the root downwards are the paths of settings, and each leaf below them unfolds on
its own.

Nodes may be entered one inside the other as deep as there is room, and reading a document
gives them as much as `maxNesting` says. Without room a leaf cannot be shown, and a map on the
way to one counts as a map that lies inside of itself. What is made of values once they are
read, such as their texts and paths, is made at any depth. -/
namespace TopicTables.Yaml

namespace Parts

/-- The value of a part inside the collections whose numbers are given. -/
def unfold (parts : Parts) (outer : List Nat) : Nat → Nat → Except ValueFault Value
  | 0, _ => throw .tooDeep
  | room + 1, n => match parts[n]?.join, room with
    | none, _ => return .scalar .none
    | some (.scalar k), _ => return .scalar k.scalar
    | some (.set _), 0 => throw .tooDeep
    | some (.set members), _ => return .set (SetOrder.arrange (members.map Key.scalar))
    | some (.list items), room =>
      if outer.contains n then return .listAgain
      else return .list (← items.mapM (unfold parts (n :: outer) room))
    | some (.map entries), room =>
      if outer.contains n then return .mapAgain
      else return .map (← entries.mapM fun e =>
        return (e.1.scalar, ← unfold parts (n :: outer) room e.2))
    | some (.pairs entries), room =>
      if outer.contains n then return .listAgain
      else return .list (← entries.mapM fun e => do
        match room with
        | 0 => throw .tooDeep
        | room + 1 =>
          return .pair (← unfold parts (n :: outer) room e.1)
            (← unfold parts (n :: outer) room e.2))

/-- The value of a part inside the maps whose numbers are given, which lead to it from the
root. Each leaf has all the room for itself. -/
def branch (parts : Parts) (leafRoom : Nat) (outer : List Nat) (room n : Nat) :
    Except ValueFault Value :=
  match parts[n]?.join, room with
  | some (.map _), 0 => return .mapAgain
  | some (.map entries), room + 1 =>
    if outer.contains n then return .mapAgain
    else return .map (← entries.mapM fun e =>
      return (e.1.scalar, ← branch parts leafRoom (n :: outer) room e.2))
  | _, _ => parts.unfold [] leafRoom n

end Parts

/-- What the top level of a document is. -/
inductive TopLevel where
  /-- An empty document, or null. -/
  | nothing
  | map (entries : List (Scalar × Value))
  | other

/-- The top level of a document. -/
def Document.topLevel (room : Nat) (d : Document) : Except ValueFault TopLevel := do
  let parts ← d.parts room
  match parts[d.root]?.join with
  | some (.scalar ⟨.none, _⟩) => return .nothing
  | some (.map _) =>
    match ← parts.branch room [] room d.root with
    | .map entries => return .map entries
    | _ => return .other
  | _ => return .other

/-- What is wrong with a document. -/
inductive Fault where
  | text (fault : SyntaxFault)
  | value (fault : ValueFault)
  deriving DecidableEq, Repr

def Fault.message : Fault → Text
  | .text fault => fault.message
  | .value fault => fault.message

/-- The document of a text, unless it is empty. -/
def Document.ofText? (t : Text) : Except SyntaxFault (Option Document) :=
  Document.ofTokens? (tokens (unifyNewlines t))

/-- How many nodes may be entered one inside the other when values are made of them. -/
def maxNesting : Nat := 988

/-- The top level of the document that a text is. -/
def read (t : Text) : Except Fault TopLevel :=
  match Document.ofText? t with
  | .error fault => .error (.text fault)
  | .ok none => .ok .nothing
  | .ok (some d) => match d.topLevel maxNesting with
    | .error fault => .error (.value fault)
    | .ok top => .ok top

end TopicTables.Yaml
