import TopicTables.Table.Config

/-! Log events: what a run reports while it works. -/
namespace TopicTables

/-- How serious a log event is. -/
inductive Severity where
  | debug
  | info
  | warning
  | error
  deriving DecidableEq, Repr

/-- The numeric level of a severity. -/
def Severity.level : Severity → Nat
  | .debug => 10
  | .info => 20
  | .warning => 30
  | .error => 40

/-- Something that a run reports. -/
inductive LogEvent where
  /-- The settings of a table are about to be resolved. -/
  | resolving (a : Address)
  /-- A table of a topic was resolved. -/
  | resolved (topic table : Text)
  /-- Discovery found that many violations. -/
  | invalid (count : Nat)
  /-- Discovery found that many tables. -/
  | discovered (count : Nat)
  /-- One violation of a settings file. -/
  | violation (v : Violation)
  /-- The settings file at a path configures no table. -/
  | noTables (path : Text)
  /-- The configuration of one table of a settings file. -/
  | summary (topic text : Text)
  deriving DecidableEq, Repr

namespace LogEvent

/-- How serious an event is. -/
def severity : LogEvent → Severity
  | .resolving _ => .debug
  | .resolved _ _ => .info
  | .invalid _ => .error
  | .discovered _ => .info
  | .violation _ => .error
  | .noTables _ => .warning
  | .summary _ _ => .info

def message : LogEvent → Text
  | .resolving a => "Resolving settings for ".toList ++ a.stem
  | .resolved topic table =>
    "Resolved table config for topic ".toList ++ topic ++ " -> ".toList ++ table
  | .invalid count => decimal count ++ " table setting(s) are invalid.".toList
  | .discovered count =>
    "Discovered ".toList ++ decimal count ++ " table config(s).".toList
  | .violation v => v.render
  | .noTables path => "No table settings found in ".toList ++ path
  | .summary topic text => topic ++ ": ".toList ++ text

end LogEvent
end TopicTables
