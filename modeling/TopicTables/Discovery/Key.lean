import TopicTables.Setting.Table

/-! Settings keys: which table and setting a key of a bag belongs to.

A key is `topic.<topic>.<keyspace>.<table>.<setting>`. The topic may hold dots; a name
is either free of dots and double quotes, or stands between double quotes with every
inner quote written twice. Of several ways to cut a key the one with the longest topic
counts. One line break after the setting is allowed. -/
namespace TopicTables

/-- A key of a bag, taken apart. -/
structure SettingKey where
  address : Address
  setting : TableSetting
  deriving DecidableEq, Repr

namespace SettingKey

/-- A character of a topic. -/
def isTopicChar (c : Char) : Bool := c.isAlphanum || c == '.' || c == '_' || c == '-'

/-- A character of a name without quotes. -/
def isNameChar (c : Char) : Bool := c != '.' && c != '"'

/-- The body of a quoted name as it is written, and what follows its closing quote. -/
def takeBody? : Text → Option (Text × Text)
  | [] => none
  | '"' :: '"' :: t => (takeBody? t).map fun (body, rest) => ('"' :: '"' :: body, rest)
  | c :: t =>
    if c = '"' then some ([], t) else (takeBody? t).map fun (body, rest) => (c :: body, rest)

/-- The name that a text starts with, as it is written, and what follows it. -/
def takeName? (t : Text) : Option (Text × Text) :=
  match t with
  | '"' :: rest => match takeBody? rest with
    | some (c :: body, rest) => some (Quoted.enclose (c :: body), rest)
    | _ => none
  | _ => if t.takeWhile isNameChar = [] then none
    else some (t.takeWhile isNameChar, t.dropWhile isNameChar)

/-- The name that a text starts with, and what follows the dot after it. -/
def takeNameDot? (t : Text) : Option (Text × Text) :=
  match takeName? t with
  | some (name, '.' :: rest) => some (name, rest)
  | _ => none

/-- The setting that a text names, with or without one line break behind it. -/
def readSetting? (t : Text) : Option TableSetting :=
  TableSetting.settings.find? fun s => t = s.name ∨ t = s.name ++ ['\n']

/-- What follows the topic: keyspace, table and setting. -/
def readNames? (topic t : Text) : Option SettingKey :=
  match takeNameDot? t with
  | none => none
  | some (keyspace, t) => match takeNameDot? t with
    | none => none
    | some (table, t) => (readSetting? t).map fun setting => ⟨⟨topic, keyspace, table⟩, setting⟩

/-- Every way to cut a text at a dot: what stands before and after it. -/
def dotCuts : Text → List (Text × Text)
  | [] => []
  | c :: t =>
    (if c = '.' then [([], t)] else [])
      ++ (dotCuts t).map fun (before, after) => (c :: before, after)

/-- Reads the part of a key behind `topic.` with the topic of a given cut. -/
def readCut? (cut : Text × Text) : Option SettingKey :=
  if cut.1 ≠ [] ∧ cut.1.all isTopicChar then readNames? cut.1 cut.2 else none

/-- Takes a key apart; `none` for a key that belongs to no table. -/
def read? (key : Text) : Option SettingKey :=
  match key with
  | 't' :: 'o' :: 'p' :: 'i' :: 'c' :: '.' :: rest => (dotCuts rest).reverse.findSome? readCut?
  | _ => none

end SettingKey
end TopicTables
