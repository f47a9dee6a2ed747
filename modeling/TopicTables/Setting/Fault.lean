import TopicTables.Number.Integer

/-! Why a raw value is not accepted for a setting.

A fault is reported and the run goes on; a halt ends the run, because the value could
not even be looked at. -/
namespace TopicTables

/-- A value that does not have the type or range of its setting. -/
inductive SettingFault where
  /-- A text was expected, and the value is of the kind of that name. -/
  | notString (kind : Text)
  | notBoolean
  | notInt
  | below (minimum : Int)
  /-- A check of one setting, which gives its finding in words. -/
  | stated (message : Text)
  deriving DecidableEq, Repr

def SettingFault.message : SettingFault → Text
  | .notString kind => "Expected value to be a string, but it was a ".toList ++ kind
  | .notBoolean => "Expected value to be either true or false".toList
  | .notInt => "Not a number of type INT".toList
  | .below minimum => "Value must be at least ".toList ++ signedDecimal minimum
  | .stated message => message

/-- What ends a run at once. -/
inductive Halt where
  /-- An integer of too many digits was to be read or written. -/
  | digits (limit : DigitLimit)
  /-- A text was to be compared with a least integer. -/
  | unordered
  deriving DecidableEq, Repr

def Halt.message : Halt → Text
  | .digits limit => limit.message
  | .unordered => "'<' not supported between instances of 'str' and 'int'".toList

/-- A raw value was refused. -/
inductive Refusal where
  | fault (fault : SettingFault)
  | halt (halt : Halt)
  deriving DecidableEq, Repr

end TopicTables
