import TopicTables.Calendar
import TopicTables.Number.Binary64

/-! Log lines: how an event looks on a console.

A line holds the time in UTC to the millisecond, the name of the logger, the level and
the message; on request it is coloured by its level. -/
namespace TopicTables

/-- The name of a numeric level. -/
def levelName (level : Int) : Text :=
  if level = 0 then "NOTSET".toList
  else if level = 10 then "DEBUG".toList
  else if level = 20 then "INFO".toList
  else if level = 30 then "WARNING".toList
  else if level = 40 then "ERROR".toList
  else if level = 50 then "CRITICAL".toList
  else "Level ".toList ++ signedDecimal level

/-- The escape sequence that ends all colours. -/
def resetColour : Text := "\x1b[0m".toList

/-- The escape sequences of a numeric level; a level without a colour has none. -/
def levelColour (level : Int) : Text :=
  if level = 10 then "\x1b[37m".toList
  else if level = 20 then "\x1b[34m".toList
  else if level = 30 then "\x1b[33m".toList
  else if level = 40 then "\x1b[31m".toList
  else if level = 50 then "\x1b[1m\x1b[41m\x1b[30m".toList
  else resetColour

/-- One record of a log: its level, logger, message, and when it was made. -/
structure LogRecord where
  level : Int
  logger : Text
  message : Text
  /-- Seconds after 1 January 1970, UTC. -/
  seconds : Int
  millis : Nat

/-- Why a time cannot be written: a number in it is too great. -/
inductive TimeFault where
  /-- The seconds have more than 64 bits. -/
  | seconds
  /-- The years after 1900 have more than 32 bits. -/
  | yearsSince1900
  /-- The year has more than 32 bits. -/
  | year
  deriving DecidableEq, Repr

def TimeFault.message : TimeFault → Text
  | .seconds => "timestamp out of range for platform time_t".toList
  | .yearsSince1900 => "[Errno 75] Value too large for defined data type".toList
  | .year => "signed integer is greater than maximum".toList

namespace LogRecord

/-- The time, such as `2024-02-29 00:00:00,042`, unless it is too far away. -/
def time (r : LogRecord) : Except TimeFault Text :=
  let (year, month, day) := Date.ofEpochDays (r.seconds.fdiv 86400)
  let second := (r.seconds.fmod 86400).toNat
  if r.seconds < -(pow2 63 : Int) ∨ (pow2 63 : Int) ≤ r.seconds then .error .seconds
  else if year < 1900 - (pow2 31 : Int) ∨ 1900 + (pow2 31 : Int) ≤ year then .error .yearsSince1900
  else if (pow2 31 : Int) ≤ year then .error .year
  else .ok (signedDecimal year ++ '-' :: decimalPadded 2 month ++ '-' :: decimalPadded 2 day
    ++ ' ' :: decimalPadded 2 (second / 3600)
    ++ ':' :: decimalPadded 2 (second / 60 % 60)
    ++ ':' :: decimalPadded 2 (second % 60)
    ++ ',' :: decimalPadded 3 r.millis)

/-- The line without colours. -/
def plain (r : LogRecord) : Except TimeFault Text := do
  return joinWith " - ".toList [← r.time, r.logger, levelName r.level, r.message]

/-- The line in the colour of its level. -/
def coloured (r : LogRecord) : Except TimeFault Text := do
  return levelColour r.level ++ (← r.plain) ++ resetColour

end LogRecord
end TopicTables
