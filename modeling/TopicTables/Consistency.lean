import TopicTables.Text.Blank
import TopicTables.Text.Case

/-! Consistency levels of writes. -/
namespace TopicTables

/-- The consistency levels that the destination store knows. -/
inductive ConsistencyLevel where
  | any
  | one
  | two
  | three
  | quorum
  | all
  | localOne
  | localQuorum
  | eachQuorum
  | serial
  | localSerial
  deriving DecidableEq, Repr

namespace ConsistencyLevel

/-- Every level, in the order in which messages list them. -/
def levels : List ConsistencyLevel :=
  [.any, .one, .two, .three, .quorum, .all, .localOne, .localQuorum, .eachQuorum, .serial,
   .localSerial]

def name : ConsistencyLevel → Text
  | .any => "ANY".toList
  | .one => "ONE".toList
  | .two => "TWO".toList
  | .three => "THREE".toList
  | .quorum => "QUORUM".toList
  | .all => "ALL".toList
  | .localOne => "LOCAL_ONE".toList
  | .localQuorum => "LOCAL_QUORUM".toList
  | .eachQuorum => "EACH_QUORUM".toList
  | .serial => "SERIAL".toList
  | .localSerial => "LOCAL_SERIAL".toList

theorem mem_levels (level : ConsistencyLevel) : level ∈ levels := by cases level <;> decide

/-- The level of that name. -/
def ofName? (t : Text) : Option ConsistencyLevel := levels.find? fun level => level.name = t

/-- A level as it is looked up: case and white space at the ends do not matter. -/
def lookupName (t : Text) : Text := upper (strip t)

/-- The level that a setting names, or the name that was looked up in vain. -/
def parse (t : Text) : Except Text ConsistencyLevel :=
  match ofName? (lookupName t) with
  | some level => .ok level
  | none => .error (lookupName t)

end ConsistencyLevel
end TopicTables
