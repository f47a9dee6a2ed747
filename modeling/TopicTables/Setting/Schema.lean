import TopicTables.Setting.Definition

/-! Schemas: the settings that are recognized, and what a bag says about each.

Parsing a bag gives one verdict for every defined setting, in the order of the
definitions, and looks at nothing else in the bag. -/
namespace TopicTables

/-- Definitions in order, at most one for each name. -/
abbrev Schema := Roster Definition.name

/-- What a bag says about one setting. -/
inductive Verdict where
  | accepted (value : Value)
  | refused (violation : Violation)

/-- The verdicts on all settings of a schema. -/
structure Parsed where
  verdicts : List (Text × Verdict)

namespace Parsed

/-- The accepted values with the names of their settings. -/
def values (p : Parsed) : List (Text × Value) :=
  p.verdicts.filterMap fun
    | (name, .accepted value) => some (name, value)
    | (_, .refused _) => none

def violations (p : Parsed) : List Violation :=
  p.verdicts.filterMap fun
    | (_, .accepted _) => none
    | (_, .refused violation) => some violation

/-- Every setting was accepted. -/
def ok (p : Parsed) : Bool := p.violations.isEmpty

/-- The accepted value of a setting. -/
def value? (p : Parsed) (name : Text) : Option Value :=
  (p.values.find? fun v => v.1 = name).map Prod.snd

end Parsed

/-- What a bag says about the setting of a definition: its default if it is not there,
its value if that is accepted, and a violation otherwise. -/
def Definition.verdict (d : Definition) (bag : Bag) : Except Halt Verdict :=
  match bag.get? d.name with
  | none => match d.default with
    | some value => .ok (.accepted value)
    | none => .ok (.refused ⟨d.name, none, .missing d.name⟩)
  | some raw => match d.read raw with
    | .ok value => .ok (.accepted value)
    | .error (.fault fault) => match raw.echo with
      | .ok shown => .ok (.refused ⟨d.name, some shown, .fault fault⟩)
      | .error limit => .error (.digits limit)
    | .error (.halt halt) => .error halt

namespace Schema

/-- The names of the settings. -/
def names (s : Schema) : List Text := s.keys

/-- Adds a definition, or gives back the name that is taken. -/
def define (s : Schema) (d : Definition) : Except Text Schema :=
  match s.add? d with
  | some s => .ok s
  | none => .error d.name

/-- The schema of a list of definitions, or the first name that comes a second time. -/
def ofList (definitions : List Definition) : Except Text Schema :=
  definitions.foldlM define ∅

/-- The complaint about a name that comes a second time. -/
def repeatedMessage (name : Text) : Text :=
  "Setting ".toList ++ name ++ " is defined more than once.".toList

/-- Parses every defined setting of a bag. -/
def parse (s : Schema) (bag : Bag) : Except Halt Parsed := do
  let verdicts ← s.items.mapM fun d => do return (d.name, ← d.verdict bag)
  return ⟨verdicts⟩

end Schema
end TopicTables
