/-! Binary floating-point numbers of 64 bits, in exact arithmetic.

A finite number is a natural mantissa times a power of two. `Binary64.ofRatio` rounds
a quotient of naturals to the nearest such number, a tie to the even mantissa, and
every operation is the exact result rounded once. -/
namespace TopicTables

/-- The power of two; 1 for a negative exponent. -/
def pow2 (exponent : Int) : Nat := Nat.pow 2 exponent.toNat

/-- The power of ten; 1 for a negative exponent. -/
def pow10 (exponent : Int) : Nat := Nat.pow 10 exponent.toNat

/-- A floating-point number. A finite one is `mantissa * 2 ^ exponent`, with the
mantissa below `2 ^ 53` and the exponent from -1074 to 971; below `2 ^ 52` the mantissa
is as it is because the exponent is -1074. -/
inductive Binary64 where
  | nan
  | infinite (negative : Bool)
  | finite (negative : Bool) (mantissa : Nat) (exponent : Int)
  deriving DecidableEq, Repr, Inhabited

namespace Binary64

/-- The least exponent of a finite number. -/
def minExponent : Int := -1074

/-- The greatest exponent of a finite number. -/
def maxExponent : Int := 971

/-- Zero with a sign. -/
def zero (negative : Bool) : Binary64 := .finite negative 0 minExponent

/-- A quotient of naturals rounded to the nearest natural, a tie to the even one. -/
def roundQuotient (num den : Nat) : Nat :=
  let q := num / den
  let r := num % den
  if 2 * r < den then q else if den < 2 * r then q + 1 else if q % 2 = 0 then q else q + 1

/-- The exponent at which a positive quotient has a mantissa of 53 bits, or the least
one if that is greater. -/
def exponentOf (num den : Nat) : Int :=
  let size : Int := (num.log2 : Int) - den.log2
  let full := num * pow2 (-size) ≥ den * pow2 size
  max minExponent (if full then size - 52 else size - 53)

/-- A quotient of naturals rounded to the nearest number; too great a one is infinite. -/
def ofRatio (negative : Bool) (num den : Nat) : Binary64 :=
  if num = 0 then zero negative else
    let e := exponentOf num den
    let m := roundQuotient (num * pow2 (-e)) (den * pow2 e)
    let (m, e) := if m = pow2 53 then (pow2 52, e + 1) else (m, e)
    if e > maxExponent then .infinite negative else .finite negative m e

/-- The number nearest to `digits * 10 ^ exponent`. Far outside the range the result is
known without computing the power. -/
def ofDecimal (negative : Bool) (digits : Nat) (exponent : Int) : Binary64 :=
  if digits = 0 then zero negative else
    let scale := (Nat.toDigits 10 digits).length + exponent
    if scale > 400 then .infinite negative
    else if scale < -400 then zero negative
    else ofRatio negative (digits * pow10 exponent) (pow10 (-exponent))

/-- The nearest number to an integer. -/
def ofInt (n : Int) : Binary64 := ofRatio (n < 0) n.natAbs 1

/-- The number with the other sign. -/
def negate : Binary64 → Binary64
  | .nan => .nan
  | .infinite s => .infinite (!s)
  | .finite s m e => .finite (!s) m e

/-- A signed mantissa at a lower exponent. -/
def scaled (negative : Bool) (mantissa : Nat) (exponent low : Int) : Int :=
  let n := mantissa * pow2 (exponent - low)
  if negative then -n else n

/-- The nearest number to `n * 2 ^ exponent`; a zero result takes the given sign. -/
def ofScaled (zeroSign : Bool) (n exponent : Int) : Binary64 :=
  if n = 0 then zero zeroSign
  else ofRatio (n < 0) (n.natAbs * pow2 exponent) (pow2 (-exponent))

/-- The sum, rounded once. -/
def add : Binary64 → Binary64 → Binary64
  | .nan, _ | _, .nan => .nan
  | .infinite s, .infinite t => if s = t then .infinite s else .nan
  | .infinite s, _ => .infinite s
  | _, .infinite t => .infinite t
  | .finite s m e, .finite t n f =>
    let low := min e f
    ofScaled (s && t) (scaled s m e low + scaled t n f low) low

/-- The product, rounded once. -/
def mul : Binary64 → Binary64 → Binary64
  | .nan, _ | _, .nan => .nan
  | .infinite s, .infinite t => .infinite (s != t)
  | .infinite s, .finite t n _ => if n = 0 then .nan else .infinite (s != t)
  | .finite s m _, .infinite t => if m = 0 then .nan else .infinite (s != t)
  | .finite s m e, .finite t n f =>
    let k := e + f
    if m * n = 0 then zero (s != t)
    else ofRatio (s != t) (m * n * pow2 k) (pow2 (-k))

/-- The two are the same number: both zeros are, and not-a-number is not even itself. -/
def sameNumber : Binary64 → Binary64 → Bool
  | .infinite s, .infinite t => s == t
  | .finite s m e, .finite t n f => (m == 0 && n == 0) || (s == t && m == n && e == f)
  | _, _ => false

/-- The number is the integer. -/
def isInteger (x : Binary64) (n : Int) : Bool :=
  match x with
  | .finite s m e =>
    decide ((if s then -(m : Int) else m) * pow2 e = n * pow2 (-e))
  | _ => false

end Binary64
end TopicTables
