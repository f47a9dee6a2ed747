import TopicTables.Yaml.Looks
import TopicTables.Calendar
import TopicTables.Text.Base64
import TopicTables.Text.Case
import TopicTables.Text.Digit
import TopicTables.Value.Basic
import TopicTables.Value.Text

/-! The scalars of a document: texts read by their tags.

A number may have underscores between its digits and may be written in parts of 60, and
its digits may be those of any script. -/
namespace TopicTables.Yaml

/-- What is wrong with a value of a well-formed document. -/
inductive ValueFault where
  /-- A tag, key or merge that has no meaning. -/
  | unsupported
  /-- A number without a single character. -/
  | noDigits
  /-- A text that is no integer of a base. -/
  | notInt (base : Nat) (t : Text)
  /-- A text that is no number. -/
  | notFloat (t : Text)
  /-- A number in so many parts that a power of 60 is too great. -/
  | tooManyParts
  | notBoolean (word : Text)
  | notTimestamp
  /-- A mapping that should be a timestamp. -/
  | timestampOfMapping
  | calendar (fault : CalendarFault)
  | digits (limit : DigitLimit)
  /-- A scalar stands for another one, and so on for ever or nearly so. -/
  | endless
  /-- Too many mappings that merge each other. -/
  | mergeTooDeep
  /-- Too many collections inside of each other to be shown. -/
  | tooDeep
  deriving DecidableEq, Repr

/-- How much of a text is quoted as no integer. -/
def quotedLength : Nat := 200

def ValueFault.message : ValueFault → Text
  | .unsupported => "unsupported tag, key or merge".toList
  | .noDigits => "string index out of range".toList
  | .notInt base t =>
    "invalid literal for int() with base ".toList ++ decimal base ++ ": ".toList
      ++ (literal t).take quotedLength
  | .notFloat t => "could not convert string to float: ".toList ++ literal t
  | .tooManyParts => "int too large to convert to float".toList
  | .notBoolean word => literal word
  | .notTimestamp => "'NoneType' object has no attribute 'groupdict'".toList
  | .timestampOfMapping => "expected string or bytes-like object, got 'list'".toList
  | .calendar fault => fault.message
  | .digits limit => limit.message
  | .endless => "maximum recursion depth exceeded".toList
  | .mergeTooDeep => "maximum recursion depth exceeded in comparison".toList
  | .tooDeep => "maximum recursion depth exceeded while getting the repr of an object".toList

/-- The value of a digit of any base up to 36. -/
def digitValue? (c : Char) : Option Nat :=
  if isDigit c then some (c.toNat - 48)
  else if 'a' ≤ c ∧ c ≤ 'z' then some (c.toNat - 87)
  else if 'A' ≤ c ∧ c ≤ 'Z' then some (c.toNat - 55)
  else none

/-- The digit belongs to the base. -/
def isDigitOf (base : Nat) (c : Char) : Bool := (digitValue? c).any (· < base)

/-- A text without the marker that may stand in front of digits of a base. -/
def dropBaseMarker (base : Nat) (t : Text) : Text :=
  match t with
  | '0' :: c :: rest =>
    if (base = 2 ∧ c.toLower = 'b') ∨ (base = 8 ∧ c.toLower = 'o') ∨ (base = 16 ∧ c.toLower = 'x')
    then rest else t
  | _ => t

/-- Reads an integer of a base, with spaces around it and a sign. Only decimal digits are
limited in number. -/
def readBase (base : Nat) (t : Text) : Except ValueFault Int :=
  let (negative, rest) := splitSign (numeral t)
  let rest := dropBaseMarker base rest
  let digits := rest.takeWhile (isDigitOf base)
  if base = 10 ∧ digits.length > maxDigits then .error (.digits (.reading digits.length))
  else if digits = [] ∨ digits ≠ rest then .error (.notInt base t)
  else .ok (signed negative
    (digits.foldl (fun n c => n * base + (digitValue? c).getD 0) 0))

/-- A number of parts of 60, the greatest first. -/
def ofSexagesimal (parts : List Int) : Int := parts.foldl (fun n part => n * 60 + part) 0

/-- Reads the text of an integer. -/
def intOf (t : Text) : Except ValueFault Int := do
  let t := t.filter (· ≠ '_')
  if t = [] then throw .noDigits
  let (negative, t) := splitSign t
  let sign : Int := if negative then -1 else 1
  match t with
  | [] => throw .noDigits
  | ['0'] => return 0
  | '0' :: 'b' :: digits => return sign * (← readBase 2 digits)
  | '0' :: 'x' :: digits => return sign * (← readBase 16 digits)
  | '0' :: _ => return sign * (← readBase 8 t)
  | _ =>
    if t.contains ':' then return sign * ofSexagesimal (← (t.splitOn ':').mapM (readBase 10))
    else return sign * (← readBase 10 t)

/-- Reads a number with spaces around it. -/
def readFloat (t : Text) : Except ValueFault Binary64 :=
  match Binary64.read? (numeral t) with
  | some x => .ok x
  | none => .error (.notFloat t)

/-- Adds parts of 60, the least first, from a given power of 60 on. -/
def sumSexagesimal (sum : Binary64) (power : Int) : List Binary64 → Except ValueFault Binary64
  | [] => .ok sum
  | part :: parts => match Binary64.ofInt power with
    | .infinite _ => .error .tooManyParts
    | weight => sumSexagesimal (sum.add (part.mul weight)) (power * 60) parts

/-- The text of a number in small letters without underscores. -/
def floatText (t : Text) : Text := lower (t.filter (· ≠ '_'))

/-- The text is the word for not-a-number, perhaps with a sign. -/
def isNanWord (t : Text) : Bool := (splitSign (floatText t)).2 == ".nan".toList

/-- Reads the text of a number. -/
def floatOf (t : Text) : Except ValueFault Binary64 := do
  if floatText t = [] then throw .noDigits
  let (negative, rest) := splitSign (floatText t)
  let x ←
    if rest = ".inf".toList then pure (.infinite false)
    else if isNanWord t then pure .nan
    else if rest.contains ':' then do
      let parts ← (rest.splitOn ':').mapM readFloat
      sumSexagesimal (.zero false) 1 parts.reverse
    else readFloat rest
  return if negative then x.negate else x

/-- Reads one of the words for true and false, in any case. -/
def booleanOf (t : Text) : Except ValueFault Bool :=
  match booleanWords.find? fun w => w.1 = lower t with
  | some w => .ok w.2
  | none => .error (.notBoolean (lower t))

/-- The microseconds that the digits of a fraction denote; those after six do not count. -/
def microsecondsOf (fraction : Text) : Nat :=
  ofDecimal (fraction.take 6 ++ List.replicate (6 - fraction.length) '0')

/-- The minutes of a zone. -/
def zoneMinutes : Option (Char × Text × Text) → Int
  | none => 0
  | some (sign, hours, minutes) =>
    signed (sign = '-') (ofDecimal hours * 60 + ofDecimal minutes)

/-- A calendar's answer as a scalar. -/
def ofCalendar {α : Type} (make : α → Scalar) : Except CalendarFault α → Except ValueFault Scalar
  | .ok a => .ok (make a)
  | .error fault => .error (.calendar fault)

/-- Reads the text of a date or timestamp. -/
def timestampOf (t : Text) : Except ValueFault Scalar := do
  let some p := timestampParts? (withoutFinalFeed t) | throw .notTimestamp
  let year := ofDecimal p.year
  let month := ofDecimal p.month
  let day := ofDecimal p.day
  match p.time with
  | none => ofCalendar .date (Date.of year month day)
  | some (hour, minute, second, fraction) =>
    ofCalendar .timestamp (Timestamp.of year month day (ofDecimal hour) (ofDecimal minute)
      (ofDecimal second) (microsecondsOf fraction) (p.zone.map zoneMinutes))

/-- Reads bytes in base 64. -/
def bytesOf (t : Text) : Except ValueFault Scalar :=
  match if t.all (·.toNat < 0x80) then Base64.decode? t else none with
  | some content => .ok (.bytes content)
  | none => .error .unsupported

/-- Reads a scalar by its tag. -/
def scalarOf (tag : Tag) (t : Text) : Except ValueFault Scalar :=
  match tag with
  | .str => .ok (.text t)
  | .int => .int <$> intOf t
  | .bool => .bool <$> booleanOf t
  | .float => .float <$> floatOf t
  | .null => .ok .none
  | .timestamp => timestampOf t
  | .binary => bytesOf t
  | .merge | .value | .seq | .map | .set | .omap | .pairs | .unknown => .error .unsupported

end TopicTables.Yaml
