import TopicTables.Mapping.Basic
import TopicTables.Consistency
import TopicTables.Setting.Fault

/-! Violations: settings that cannot be accepted.

A violation names the path of the offending setting, shows its value and carries the
finding, from which its wording follows. A whole run is refused with all its violations
at once. -/
namespace TopicTables

/-- What is wrong with a setting. -/
inductive Finding where
  /-- A required setting is not there. -/
  | missing (setting : Text)
  | fault (fault : SettingFault)
  /-- No consistency level has that name. -/
  | noLevel
  /-- The mapping has defects. -/
  | mapping (errors : List MappingError)
  /-- A keyspace or table name is malformed. -/
  | name (error : IdentifierError)
  /-- The table of the topic is configured already, by the settings at a path. -/
  | repeated (table topic path : Text)
  /-- A finding that is given in words. -/
  | stated (message : Text) (details : List Text)
  deriving DecidableEq, Repr

/-- The individual defects that a finding sums up. -/
def Finding.details : Finding → List Text
  | .mapping errors => errors.map MappingError.message
  | .stated _ details => details
  | _ => []

def Finding.message : Finding → Text
  | .missing setting =>
    "Missing required configuration \"".toList ++ setting
      ++ "\" which has no default value.".toList
  | .fault f => f.message
  | .noLevel =>
    "valid values include: ".toList
      ++ joinWith ", ".toList (ConsistencyLevel.levels.map ConsistencyLevel.name)
  | .mapping errors =>
    "Encountered the following errors:\n".toList
      ++ joinWith "\n  ".toList (errors.map MappingError.message)
  | .name error => error.message
  | .repeated table topic path =>
    "Table ".toList ++ table ++ " of topic ".toList ++ topic
      ++ " is already configured by ".toList ++ path
  | .stated message _ => message

/-- One offending setting: its path, its value as it is shown, and the finding. -/
structure Violation where
  path : Text
  value : Option Text
  finding : Finding
  deriving DecidableEq, Repr

/-- A line on a value that is not accepted; an empty explanation adds nothing. -/
def invalidValue (value name explanation : Text) : Text :=
  "Invalid value ".toList ++ value ++ " for configuration ".toList ++ name
    ++ (if explanation = [] then [] else ": ".toList ++ explanation)

namespace Violation

/-- The explanation of a violation. -/
def message (v : Violation) : Text := v.finding.message

/-- The violation as one report; without a value the explanation says it all. -/
def render (v : Violation) : Text :=
  match v.value with
  | none => v.message
  | some value => invalidValue value v.path v.message

end Violation

/-- An error about one setting: its name, the value shown and an explanation. -/
structure ConfigError where
  name : Text
  value : Option Text
  explanation : Option Text
  deriving DecidableEq, Repr

/-- The wording of the error; the bare name stands for itself. -/
def ConfigError.message (e : ConfigError) : Text :=
  match e.value, e.explanation with
  | none, none => e.name
  | value, explanation => invalidValue (value.getD "None".toList) e.name (explanation.getD [])

/-- The refusal of a run: at least one violation. -/
structure Rejection where
  first : Violation
  others : List Violation
  deriving DecidableEq, Repr

namespace Rejection

/-- The refusal for a list of violations, if there are any. -/
def ofList? : List Violation → Option Rejection
  | [] => none
  | v :: vs => some ⟨v, vs⟩

/-- The complaint about a refusal without violations. -/
def emptyMessage : Text := "TableConfigError requires at least one violation.".toList

/-- All violations, in the order in which they were found. -/
def violations (r : Rejection) : List Violation := r.first :: r.others

/-- The paths of all violations. -/
def paths (r : Rejection) : List Text := r.violations.map Violation.path

/-- The reports of all violations, one after the other. -/
def message (r : Rejection) : Text := joinWith ['\n'] (r.violations.map Violation.render)

end Rejection

/-- How a run can fail: refused with violations, or ended by a halt. -/
inductive Failure where
  | rejected (violations : List Violation)
  | aborted (halt : Halt)
  deriving DecidableEq, Repr

end TopicTables
