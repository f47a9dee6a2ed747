import TopicTables.Value.Text
import TopicTables.Violation

/-! Definitions of settings: a name, a type, a default and checks.

A raw value is coerced to the type of its setting, and then compared with the least
value and given to the setting's own check. Text is accepted for every type, so that a
setting means the same in a typed bag and in one that was loaded from a file. -/
namespace TopicTables

/-- The types of settings. -/
inductive SettingType where
  | string
  | boolean
  | int
  deriving DecidableEq, Repr

def SettingType.name : SettingType → Text
  | .string => "STRING".toList
  | .boolean => "BOOLEAN".toList
  | .int => "INT".toList

/-- How much a setting matters. -/
inductive Importance where
  | high
  | medium
  | low
  deriving DecidableEq, Repr

def Importance.name : Importance → Text
  | .high => "high".toList
  | .medium => "medium".toList
  | .low => "low".toList

/-- The least value of an INT setting. -/
def minInt : Int := -2147483648

/-- The greatest value of an INT setting. -/
def maxInt : Int := 2147483647

/-- An integer of 32 bits. -/
def intInRange (n : Int) : Except Refusal Value :=
  if minInt ≤ n ∧ n ≤ maxInt then .ok (.scalar (.int n)) else .error (.fault .notInt)

/-- The text of a STRING setting, without white space at its ends. -/
def coerceString (raw : Value) : Except Refusal Value :=
  match raw with
  | .scalar (.text t) => .ok (.text (strip t))
  | _ => .error (.fault (.notString raw.kindName))

/-- The value of a BOOLEAN setting: a boolean, or one of its words in any case. -/
def coerceBoolean (raw : Value) : Except Refusal Value :=
  match raw with
  | .scalar (.bool b) => .ok (.scalar (.bool b))
  | .scalar (.text t) =>
    if lower (strip t) = "true".toList then .ok (.scalar (.bool true))
    else if lower (strip t) = "false".toList then .ok (.scalar (.bool false))
    else .error (.fault .notBoolean)
  | _ => .error (.fault .notBoolean)

/-- The value of an INT setting: an integer of 32 bits, or one written in plain decimal. -/
def coerceInt (raw : Value) : Except Refusal Value :=
  match raw with
  | .scalar (.int n) => intInRange n
  | .scalar (.text t) => match readInteger? (strip t) with
    | some (.ok n) => intInRange n
    | some (.error limit) => .error (.halt (.digits limit))
    | none => .error (.fault .notInt)
  | _ => .error (.fault .notInt)

/-- A raw value as a value of the type. -/
def SettingType.coerce : SettingType → Value → Except Refusal Value
  | .string => coerceString
  | .boolean => coerceBoolean
  | .int => coerceInt

/-- Compares a value with the least one; false counts as 0 and true as 1. -/
def checkAtLeast (minimum : Int) (value : Value) : Except Refusal Unit :=
  match value with
  | .scalar (.text _) => .error (.halt .unordered)
  | .scalar s => match s.asInteger? with
    | some n => if n < minimum then .error (.fault (.below minimum)) else .ok ()
    | none => .ok ()
  | _ => .ok ()

/-- One recognized setting. Without a default it is required; a default is taken as it
is. -/
structure Definition where
  name : Text
  type : SettingType
  default : Option Value
  atLeast : Option Int
  importance : Importance
  documentation : Text
  /-- Any other check of a coerced value. -/
  check : Value → Except Refusal Unit := fun _ => .ok ()

namespace Definition

/-- The setting must be there. -/
def required (d : Definition) : Bool := d.default.isNone

/-- Checks a coerced value. -/
def validate (d : Definition) (value : Value) : Except Refusal Unit := do
  if let some minimum := d.atLeast then checkAtLeast minimum value
  d.check value

/-- A raw value coerced and checked. -/
def read (d : Definition) (raw : Value) : Except Refusal Value := do
  let value ← d.type.coerce raw
  d.validate value
  return value

end Definition
end TopicTables
