import TopicTables.Value.Basic
import TopicTables.Text.Literal

/-! Values as text.

A value has a display text and a literal text. They differ on texts, dates and
timestamps only: the display of a text is the text itself, and inside collections
everything stands as a literal. An integer of too many digits has neither. Values are
written at any depth: how deep they nest is bounded where documents are read. -/
namespace TopicTables

/-- The words for true and false. -/
def boolText (b : Bool) : Text := if b then "True".toList else "False".toList

/-- The display text of a scalar. -/
def Scalar.display : Scalar → Except DigitLimit Text
  | .none => .ok "None".toList
  | .bool b => .ok (boolText b)
  | .int n => writeInteger n
  | .float x => .ok x.render
  | .text t => .ok t
  | .bytes content => .ok (bytesLiteral content)
  | .date d => .ok d.text
  | .timestamp t => .ok t.text

/-- The literal text of a scalar. -/
def Scalar.literal : Scalar → Except DigitLimit Text
  | .text t => .ok (TopicTables.literal t)
  | .date d => .ok d.constructorText
  | .timestamp t => .ok t.constructorText
  | s => s.display

mutual

/-- The literal text of a value. -/
def Value.literal : Value → Except DigitLimit Text
  | .scalar s => s.literal
  | .list items => do
    let parts ← Value.literals items
    return '[' :: joinWith ", ".toList parts ++ [']']
  | .map entries => do
    let parts ← Value.entryLiterals entries
    return '{' :: joinWith ", ".toList parts ++ ['}']
  | .set [] => .ok "set()".toList
  | .set members => do
    let parts ← members.mapM Scalar.literal
    return '{' :: joinWith ", ".toList parts ++ ['}']
  | .pair first second => do
    let first ← first.literal
    return '(' :: first ++ ", ".toList ++ (← second.literal) ++ [')']
  | .listAgain => .ok "[...]".toList
  | .mapAgain => .ok ['{', '.', '.', '.', '}']

/-- The literal texts of the items of a list. -/
def Value.literals : List Value → Except DigitLimit (List Text)
  | [] => .ok []
  | v :: vs => do return (← v.literal) :: (← Value.literals vs)

/-- The entries of a map, each with a colon between its literals. -/
def Value.entryLiterals : List (Scalar × Value) → Except DigitLimit (List Text)
  | [] => .ok []
  | (k, v) :: es => do
    let key ← k.literal
    let value ← v.literal
    return (key ++ ':' :: ' ' :: value) :: (← Value.entryLiterals es)

end

/-- The display text of a value. -/
def Value.display : Value → Except DigitLimit Text
  | .scalar s => s.display
  | v => v.literal

/-- The display text between single quotes, as violations show a value. -/
def Value.echo (v : Value) : Except DigitLimit Text := v.display.map echoed

end TopicTables
