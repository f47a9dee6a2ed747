import TopicTables.Number.Shortest
import TopicTables.Number.Integer

/-! How floating-point numbers are written and read.

Numbers are written with the fewest digits that identify them: positionally while the
leading digit stands from `10 ^ -4` to `10 ^ 15`, and with a signed exponent of at least
two digits otherwise. `Layout.standard` holds these decisions. -/
namespace TopicTables

/-- The decisions of a floating-point layout. -/
structure Layout where
  /-- The least exponent of the leading digit that is written positionally. -/
  plainFrom : Int
  /-- The least exponent above those that are written positionally. -/
  plainBelow : Int
  /-- The least number of exponent digits. -/
  exponentWidth : Nat

/-- The layout of all numbers that the library writes. -/
def Layout.standard : Layout := ⟨-4, 16, 2⟩

namespace Layout

/-- Digits with a point after the first `whole` of them, filled up with zeros. -/
def positional (digits : Text) (whole : Int) : Text :=
  if whole ≤ 0 then '0' :: '.' :: List.replicate (-whole).toNat '0' ++ digits
  else if (digits.length : Int) ≤ whole then
    digits ++ List.replicate (whole.toNat - digits.length) '0' ++ ['.', '0']
  else digits.take whole.toNat ++ '.' :: digits.drop whole.toNat

/-- Digits with a point after the first, if there are more, and an exponent. -/
def scientific (layout : Layout) (digits : Text) (exponent : Int) : Text :=
  digits.take 1 ++ (if digits.length > 1 then '.' :: digits.drop 1 else [])
    ++ 'e' :: (if exponent < 0 then '-' else '+')
    :: decimalPadded layout.exponentWidth exponent.natAbs

/-- A decimal laid out; zeros at the end of its digits do not count as digits. -/
def ofDecimal (layout : Layout) (d : Decimal) : Text :=
  let all := decimal d.digits
  let digits := (all.reverse.dropWhile (· = '0')).reverse
  let leading := (all.length : Int) + d.exponent - 1
  if layout.plainFrom ≤ leading ∧ leading < layout.plainBelow then positional digits (leading + 1)
  else scientific layout digits leading

/-- The text of a number that is not negative, given by mantissa and exponent. -/
def magnitude (layout : Layout) (mantissa : Nat) (exponent : Int) : Text :=
  if mantissa = 0 then ['0', '.', '0'] else layout.ofDecimal (Shortest.select mantissa exponent)

end Layout

namespace Binary64

/-- The text of a number. -/
def render : Binary64 → Text
  | .nan => "nan".toList
  | .infinite negative => if negative then "-inf".toList else "inf".toList
  | .finite negative m e =>
    (if negative then ['-'] else []) ++ Layout.standard.magnitude m e

/-- Digits, optionally a point and more digits, with at least one digit: the digits
without the point, how many stand behind it, and what follows. -/
def splitPoint? (t : Text) : Option (Text × Nat × Text) :=
  let whole := t.takeWhile isDigit
  let (fraction, rest) := match t.dropWhile isDigit with
    | '.' :: r => (r.takeWhile isDigit, r.dropWhile isDigit)
    | r => ([], r)
  if whole ++ fraction = [] then none else some (whole ++ fraction, fraction.length, rest)

/-- An exponent part: nothing, or `e`, an optional sign and digits. -/
def readExponent? : Text → Option Int
  | [] => some 0
  | c :: t =>
    if c = 'e' ∨ c = 'E' then
      let (negative, digits) := splitSign t
      if digits ≠ [] ∧ digits.all isDigit then some (signed negative (TopicTables.ofDecimal digits))
      else none
    else none

/-- Reads a number without a sign: digits with an optional point and exponent, or one of
the lower-case words for infinity and not-a-number. -/
def readMagnitude? (negative : Bool) (t : Text) : Option Binary64 :=
  if t = "inf".toList ∨ t = "infinity".toList then some (.infinite negative)
  else if t = "nan".toList then some .nan
  else match splitPoint? t with
    | some (digits, places, rest) =>
      (readExponent? rest).map fun e =>
        Binary64.ofDecimal negative (TopicTables.ofDecimal digits) (e - places)
    | none => none

/-- Reads a number with an optional sign. -/
def read? (t : Text) : Option Binary64 :=
  let (negative, rest) := splitSign t
  readMagnitude? negative rest

end Binary64
end TopicTables
