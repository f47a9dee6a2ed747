import TopicTables.Text.Case
import TopicTables.Text.Literal

/-! Log options from the environment: the least level, the logger's name and colours. -/
namespace TopicTables

/-- The variables that set the log options; one that is not set has a default. -/
structure LogEnvironment where
  level : Option Text
  logger : Option Text
  colour : Option Text

structure LogOptions where
  level : Text
  logger : Text
  colour : Bool

namespace LogOptions

/-- The options that the environment sets. -/
def ofEnvironment (e : LogEnvironment) : LogOptions where
  level := e.level.getD "INFO".toList
  logger := e.logger.getD "sink-config".toList
  colour := upper (e.colour.getD "True".toList) = "TRUE".toList

/-- The names of levels and their numbers. -/
def levels : List (Text × Nat) :=
  [("CRITICAL".toList, 50), ("FATAL".toList, 50), ("ERROR".toList, 40), ("WARN".toList, 30),
   ("WARNING".toList, 30), ("INFO".toList, 20), ("DEBUG".toList, 10), ("NOTSET".toList, 0)]

/-- The number of the least level, or the complaint about a name that is none. -/
def threshold (o : LogOptions) : Except Text Nat :=
  match levels.find? fun l => l.1 = o.level with
  | some l => .ok l.2
  | none => .error ("Unknown level: ".toList ++ literal o.level)

end LogOptions
end TopicTables
