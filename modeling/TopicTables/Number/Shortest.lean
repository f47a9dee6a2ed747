import TopicTables.Number.Binary64

/-! The fewest decimal digits that identify a floating-point number.

A decimal identifies a number when the number is the nearest to it. Of the decimals with
1, 2, … digits the first that does so is taken, and of two with equally many digits the
nearer, a tie to the even digit. -/
namespace TopicTables

/-- A decimal, `digits * 10 ^ exponent`. -/
structure Decimal where
  digits : Nat
  exponent : Int
  deriving DecidableEq, Repr

namespace Shortest

/-- The number is the nearest to the decimal. -/
def identifies (d : Decimal) (x : Binary64) : Bool :=
  Binary64.ofDecimal false d.digits d.exponent == x

/-- The least `k` with `num / den < 10 ^ k`, for a positive quotient. -/
def scaleOf (num den : Nat) : Int :=
  if num ≥ den then (Nat.toDigits 10 (num / den)).length
  else 1 - (Nat.toDigits 10 ((den - 1) / num)).length

/-- The decimals of an exponent on both sides of a quotient, the nearer first. -/
def neighbours (num den : Nat) (exponent : Int) : List Decimal :=
  let num := num * pow10 (-exponent)
  let den := den * pow10 exponent
  let below : Decimal := ⟨num / den, exponent⟩
  let above : Decimal := ⟨num / den + 1, exponent⟩
  if Binary64.roundQuotient num den = below.digits then [below, above] else [above, below]

/-- The exact decimal of `mantissa * 2 ^ exponent`. -/
def exact (mantissa : Nat) (exponent : Int) : Decimal :=
  if exponent ≥ 0 then ⟨mantissa * pow2 exponent, 0⟩
  else ⟨mantissa * Nat.pow 5 (-exponent).toNat, exponent⟩

/-- The decimal with the fewest digits that identifies the positive number
`mantissa * 2 ^ exponent`. -/
def select (mantissa : Nat) (exponent : Int) : Decimal :=
  let num := mantissa * pow2 exponent
  let den := pow2 (-exponent)
  let scale := scaleOf num den
  let ofLength (length : Nat) : Option Decimal :=
    (neighbours num den (scale - length)).find? (identifies · (.finite false mantissa exponent))
  ((List.range 17).findSome? fun n => ofLength (n + 1)).getD (exact mantissa exponent)

end Shortest
end TopicTables
