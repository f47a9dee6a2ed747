import TopicTables.Value.Text

/-! Settings trees as flat bags.

A nested map is flattened by joining its keys with dots, however deep it is. Where several
leaves get one path, the first gives it its place and the last its value. -/
namespace TopicTables

/-- A flat bag of texts. -/
abbrev TextBag := Roster (Prod.fst : Text × Text → Text)

/-- The entries of a second bag put into a first. -/
def TextBag.merge (a b : TextBag) : TextBag := b.items.foldl Roster.put a

/-- Why a tree has no flat bag. -/
inductive FlattenFault where
  /-- An integer of too many digits was to be written. -/
  | digits (limit : DigitLimit)
  /-- A map is a part of itself, so paths would go on for ever. -/
  | endless
  deriving DecidableEq, Repr

def FlattenFault.message : FlattenFault → Text
  | .digits limit => limit.message
  | .endless => "maximum recursion depth exceeded in comparison".toList

/-- A leaf as the text of a setting: booleans in small letters, and nothing for null. -/
def Value.settingText : Value → Except DigitLimit Text
  | .scalar (.bool b) => .ok (if b then "true".toList else "false".toList)
  | .scalar .none => .ok []
  | v => v.display

/-- The path of a key below a stem; an empty stem adds no dot. -/
def keyPath (stem : Text) (key : Scalar) : Except DigitLimit Text := do
  let name ← key.display
  return if stem = [] then name else stem ++ '.' :: name

/-- A flat bag with the text of a leaf at a path. -/
def TextBag.putLeaf (flat : TextBag) (path : Text) (leaf : Value) : Except FlattenFault TextBag :=
  match leaf.settingText with
  | .ok t => .ok (flat.put (path, t))
  | .error limit => .error (.digits limit)

mutual

/-- Puts a value at a path into a flat bag; the bag of a map is made first and merged as a
whole. -/
def Value.putInto (flat : TextBag) (path : Text) : Value → Except FlattenFault TextBag
  | .map entries => do return flat.merge (← putEntries ∅ path entries)
  | .mapAgain => .error .endless
  | v => flat.putLeaf path v

/-- Puts the entries of a map below a stem into a flat bag, one after the other. -/
def putEntries (flat : TextBag) (stem : Text) :
    List (Scalar × Value) → Except FlattenFault TextBag
  | [] => .ok flat
  | (k, v) :: rest => match keyPath stem k with
    | .error limit => .error (.digits limit)
    | .ok path => do putEntries (← v.putInto flat path) stem rest

end

/-- The flat bag of a tree below a stem. -/
def flatten (stem : Text) (entries : List (Scalar × Value)) : Except FlattenFault TextBag :=
  putEntries ∅ stem entries

/-- The texts as values. -/
def TextBag.toBag (flat : TextBag) : Bag where
  items := flat.items.map fun e => (e.1, .text e.2)
  distinct := by
    rw [List.map_map]
    exact flat.distinct

end TopicTables
