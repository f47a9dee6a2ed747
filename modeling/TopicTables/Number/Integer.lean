import TopicTables.Text.Basic

/-! Decimal texts of integers, and their limit.

An integer is read from and written as plain decimal text. Both directions refuse
more than `maxDigits` digits: a conversion costs time quadratic in the length, and
the limit keeps one setting from stalling a whole run. -/
namespace TopicTables

/-- The greatest number of decimal digits that is converted. -/
def maxDigits : Nat := 4300

/-- A decimal conversion that was refused for its length. -/
inductive DigitLimit where
  /-- A text of this many digits, leading zeros included, was to be read. -/
  | reading (digits : Nat)
  /-- An integer of too many digits was to be written. -/
  | writing
  deriving DecidableEq, Repr

def DigitLimit.message : DigitLimit → Text
  | .reading digits =>
    "Exceeds the limit (4300 digits) for integer string conversion: value has ".toList
      ++ decimal digits
      ++ " digits; use sys.set_int_max_str_digits() to increase the limit".toList
  | .writing =>
    "Exceeds the limit (4300 digits) for integer string conversion; use sys.set_int_max_str_digits() to increase the limit".toList

/-- The sign in front of a number, minus being `true`, and the rest. -/
def splitSign : Text → Bool × Text
  | '-' :: t => (true, t)
  | '+' :: t => (false, t)
  | t => (false, t)

/-- A number with a sign. -/
def signed (negative : Bool) (n : Nat) : Int := if negative then -(n : Int) else n

/-- The number that a run of digits denotes, if it is not too long. -/
def readDigits (digits : Text) : Except DigitLimit Nat :=
  if digits.length ≤ maxDigits then .ok (ofDecimal digits) else .error (.reading digits.length)

/-- An optional sign and one or more ASCII digits, read as an integer; `none` for a
text of any other form. -/
def readInteger? (t : Text) : Option (Except DigitLimit Int) :=
  let (negative, digits) := splitSign t
  if digits ≠ [] ∧ digits.all isDigit then some ((readDigits digits).map (signed negative))
  else none

/-- The decimal text of an integer, if it is not too long. -/
def writeInteger (n : Int) : Except DigitLimit Text :=
  if (decimal n.natAbs).length ≤ maxDigits then .ok (signedDecimal n) else .error .writing

end TopicTables
