/-! Texts.

Everything the library reads and writes is a `Text`, a list of characters, so that
a rule about text is a recursion or one of the list library's operators. -/
namespace TopicTables

/-- A text is its list of characters. -/
abbrev Text := List Char

/-- The texts joined with a separator between each two. -/
def joinWith (separator : Text) (parts : List Text) : Text := separator.intercalate parts

/-- The decimal digits of a number, without leading zeros. -/
def decimal (n : Nat) : Text := Nat.toDigits 10 n

/-- The decimal digits of a number, filled up on the left with zeros to a width. -/
def decimalPadded (width n : Nat) : Text :=
  List.replicate (width - (decimal n).length) '0' ++ decimal n

/-- The decimal text of an integer: a minus sign before the digits of a negative one. -/
def signedDecimal : Int → Text
  | .ofNat n => decimal n
  | .negSucc n => '-' :: decimal (n + 1)

/-- An ASCII decimal digit. -/
def isDigit (c : Char) : Bool := '0' ≤ c && c ≤ '9'

/-- The number that a run of ASCII decimal digits denotes. -/
def ofDecimal (digits : Text) : Nat := Nat.ofDigitChars 10 digits 0

/-- Written digits denote the number they were written for. -/
theorem ofDecimal_decimal (n : Nat) : ofDecimal (decimal n) = n :=
  Nat.ofDigitChars_toDigits (by decide) (by decide)

end TopicTables
