import TopicTables.Log.Event
import TopicTables.Log.Line
import TopicTables.Log.Options

/-! Log events as the lines of a console. -/
namespace TopicTables

namespace LogOptions

/-- The record of an event that happened at a time. -/
def record (o : LogOptions) (seconds : Int) (millis : Nat) (e : LogEvent) : LogRecord where
  level := e.severity.level
  logger := o.logger
  message := e.message
  seconds := seconds
  millis := millis

/-- The records of events that happened at a time; those below the least level are left out. -/
def records (o : LogOptions) (least : Nat) (seconds : Int) (millis : Nat)
    (events : List LogEvent) : List LogRecord :=
  (events.filter fun e => least ≤ e.severity.level).map (o.record seconds millis)

/-- The line of a record. -/
def line (o : LogOptions) (r : LogRecord) : Except TimeFault Text :=
  if o.colour then r.coloured else r.plain

/-- The lines of events that happened at a time. -/
def lines (o : LogOptions) (least : Nat) (seconds : Int) (millis : Nat)
    (events : List LogEvent) : Except TimeFault (List Text) :=
  (o.records least seconds millis events).mapM o.line

end LogOptions
end TopicTables
