import TopicTables.Number.Notation
import TopicTables.Calendar
import TopicTables.Roster

/-! The values that settings can hold.

A value is a scalar or a collection: a list, a map, a set or a pair. The keys of a map are
scalars, and numbers of different kinds are the same key when they are the same number, so
`1`, `1.0` and `true` name one entry. Values nest to any depth; where a list or map is a part
of itself, a value goes no deeper. A `Bag` is a flat collection of settings in order of
arrival. -/
namespace TopicTables

/-- A single value. -/
inductive Scalar where
  | none
  | bool (b : Bool)
  | int (n : Int)
  | float (x : Binary64)
  | text (t : Text)
  | bytes (content : List UInt8)
  | date (d : Date)
  | timestamp (t : Timestamp)
  deriving DecidableEq, Repr, Inhabited

/-- The integer that a boolean or an integer stands for. -/
def Scalar.asInteger? : Scalar → Option Int
  | .bool b => some (if b then 1 else 0)
  | .int n => some n
  | _ => Option.none

/-- The two scalars are one key. Numbers are compared across their kinds and timestamps by
the moment they name; not-a-number is not even the same as itself. -/
def Scalar.sameKey : Scalar → Scalar → Bool
  | .none, .none => true
  | .text a, .text b => a == b
  | .bytes a, .bytes b => a == b
  | .date a, .date b => a == b
  | .timestamp a, .timestamp b => a.sameMoment b
  | .float x, .float y => x.sameNumber y
  | .float x, b => b.asInteger?.any x.isInteger
  | a, .float y => a.asInteger?.any y.isInteger
  | a, b => match a.asInteger?, b.asInteger? with
    | some m, some n => m == n
    | _, _ => false

/-- The value of a setting. -/
inductive Value where
  | scalar (s : Scalar)
  | list (items : List Value)
  | map (entries : List (Scalar × Value))
  /-- Scalars in the order in which they are shown. -/
  | set (members : List Scalar)
  /-- Two values side by side. -/
  | pair (first second : Value)
  /-- A list around this place, once more. -/
  | listAgain
  /-- A map around this place, once more. -/
  | mapAgain
  deriving Inhabited

/-- The value of a text. -/
abbrev Value.text (t : Text) : Value := .scalar (.text t)

/-- Puts something under a key: an equal key keeps its first spelling and place. -/
def putEntry {κ α : Type} (same : κ → κ → Bool) (entries : List (κ × α)) (k : κ) (a : α) :
    List (κ × α) :=
  if entries.any fun e => same e.1 k then
    entries.map fun e => if same e.1 k then (e.1, a) else e
  else entries ++ [(k, a)]

/-- A map of pairs put one after the other. -/
def Value.ofPairs (pairs : List (Scalar × Value)) : Value :=
  .map (pairs.foldl (fun entries p => putEntry Scalar.sameKey entries p.1 p.2) [])

/-- The kind of a value, as messages name it. -/
def Value.kindName : Value → Text
  | .scalar .none => "NoneType".toList
  | .scalar (.bool _) => "bool".toList
  | .scalar (.int _) => "int".toList
  | .scalar (.float _) => "float".toList
  | .scalar (.text _) => "str".toList
  | .scalar (.bytes _) => "bytes".toList
  | .scalar (.date _) => "date".toList
  | .scalar (.timestamp _) => "datetime".toList
  | .list _ | .listAgain => "list".toList
  | .map _ | .mapAgain => "dict".toList
  | .set _ => "set".toList
  | .pair _ _ => "tuple".toList

/-- A flat collection of settings: one value for each key, in order of arrival. -/
abbrev Bag := Roster (Prod.fst : Text × Value → Text)

/-- The value of a key. -/
def Bag.get? (bag : Bag) (key : Text) : Option Value := (bag.find? key).map Prod.snd

/-- The bag with a value under a key. -/
def Bag.set (bag : Bag) (key : Text) (value : Value) : Bag := bag.put (key, value)

end TopicTables
