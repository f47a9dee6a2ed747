import TopicTables.Yaml.Spot
import TopicTables.Yaml.Tag

/-! What plain scalars look like.

A scalar without a tag is a boolean, number, null, date, merge key or default value if
its text has the form of one, and a text otherwise. A line feed at the end of the text
does not count. -/
namespace TopicTables.Yaml

/-- The rest after a sign, if there is one. -/
def unsigned : Text → Text
  | '-' :: t => t
  | '+' :: t => t
  | t => t

/-- A digit or an underscore. -/
def isDigitOrUnderscore (c : Char) : Bool := isDigit c || c == '_'

/-- The words for true and false. -/
def booleanWords : List (Text × Bool) :=
  [("yes".toList, true), ("no".toList, false), ("true".toList, true), ("false".toList, false),
   ("on".toList, true), ("off".toList, false)]

/-- The three ways in which a lower-case word may be written: small, with a capital, or in
capitals. -/
def spellings (word : Text) : List Text :=
  [word, word.take 1 |>.map Char.toUpper |>.append (word.drop 1), word.map Char.toUpper]

/-- A word for true or false in one of its spellings: `yes`, `No`, `TRUE`, … -/
def looksBoolean (t : Text) : Bool := booleanWords.any fun w => (spellings w.1).contains t

/-- Null is a tilde, one of the spellings of `null`, or nothing at all. -/
def looksNull (t : Text) : Bool :=
  t == [] || t == ['~'] || (spellings "null".toList).contains t

/-- Parts of two digits behind colons, each below 60, at least one of them. -/
def looksSexagesimalTail (t : Text) : Bool :=
  match t.splitOn ':' with
  | [] :: part :: parts => (part :: parts).all fun p => match p with
    | [a] => isDigit a
    | [a, b] => isDigit a && isDigit b && a ≤ '5'
    | _ => false
  | _ => false

/-- Decimal without leading zeros, octal, binary, hexadecimal or sexagesimal digits, with
underscores between them. -/
def looksInt (t : Text) : Bool :=
  match unsigned t with
  | '0' :: 'b' :: d :: ds => (d :: ds).all fun c => c == '0' || c == '1' || c == '_'
  | '0' :: 'x' :: d :: ds => (d :: ds).all fun c => (hexDigit? c).isSome || c == '_'
  | '0' :: ds => ds.all fun c => ('0' ≤ c && c ≤ '7') || c == '_'
  | d :: ds =>
    isDigit d && (ds.all isDigitOrUnderscore
      || looksSexagesimalTail (ds.dropWhile isDigitOrUnderscore))
  | [] => false

/-- Nothing, or an exponent with a sign. -/
def looksExponent : Text → Bool
  | [] => true
  | e :: sign :: ds =>
    (e == 'e' || e == 'E') && (sign == '-' || sign == '+') && ds != [] && ds.all isDigit
  | _ => false

/-- A number with a point, or one of the words for infinity and not-a-number behind a
point. -/
def looksFloat (t : Text) : Bool :=
  ((spellings "inf".toList).map ('.' :: ·)).contains (unsigned t)
    || [".nan".toList, ".NaN".toList, ".NAN".toList].contains t
    || (match t with
      | '.' :: d :: ds => isDigit d && looksExponent (ds.dropWhile isDigitOrUnderscore)
      | _ => false)
    || (match unsigned t with
      | d :: ds => isDigit d && match ds.dropWhile isDigitOrUnderscore with
        | '.' :: r => looksExponent (r.dropWhile isDigitOrUnderscore)
        | r => looksSexagesimalTail (r.takeWhile (· ≠ '.')) && match r.dropWhile (· ≠ '.') with
          | '.' :: r => r.all isDigitOrUnderscore
          | _ => false
      | [] => false)

/-- The parts of a date, of a time of day, and of a zone, as they are written. -/
structure TimestampParts where
  year : Text
  month : Text
  day : Text
  /-- Hour, minute, second and the digits of the fraction. -/
  time : Option (Text × Text × Text × Text)
  /-- The sign, hours and minutes of a zone; universal time has none. -/
  zone : Option (Option (Char × Text × Text))
  deriving Repr

/-- Takes between `least` and `most` digits from the front. -/
def digitsOf (least most : Nat) (t : Text) : Option (Text × Text) :=
  let digits := (t.take most).takeWhile isDigit
  if digits.length < least then none else some (digits, t.drop digits.length)

/-- Takes a character from the front. -/
def charOf (c : Char) : Text → Option Text
  | d :: t => if d = c then some t else none
  | [] => none

/-- Reads a zone: nothing, `Z`, or a sign with hours and perhaps minutes, after spaces. -/
def readZone? (t : Text) : Option (Option (Option (Char × Text × Text))) :=
  if t = [] then some none
  else match t.dropWhile fun c => c = ' ' ∨ c = '\t' with
    | ['Z'] => some (some none)
    | sign :: t =>
      if sign = '+' ∨ sign = '-' then do
        let (hours, t) ← digitsOf 1 2 t
        if t = [] then return some (some (sign, hours, []))
        let (minutes, t) ← digitsOf 2 2 (← charOf ':' t)
        if t = [] then return some (some (sign, hours, minutes)) else none
      else none
    | [] => none

/-- Reads the time of day and the zone behind a date. -/
def readTime? (t : Text) :
    Option ((Text × Text × Text × Text) × Option (Option (Char × Text × Text))) := do
  let t ← match t with
    | [] => none
    | c :: r =>
      if c = 'T' ∨ c = 't' then some r
      else if c = ' ' ∨ c = '\t' then some (r.dropWhile fun c => c = ' ' ∨ c = '\t')
      else none
  let (hour, t) ← digitsOf 1 2 t
  let (minute, t) ← digitsOf 2 2 (← charOf ':' t)
  let (second, t) ← digitsOf 2 2 (← charOf ':' t)
  let (fraction, t) := match t with
    | '.' :: r => (r.takeWhile isDigit, r.dropWhile isDigit)
    | _ => ([], t)
  let zone ← readZone? t
  return ((hour, minute, second, fraction), zone)

/-- Reads a date, or a date with a time of day. -/
def timestampParts? (t : Text) : Option TimestampParts := do
  let (year, t) ← digitsOf 4 4 t
  let (month, t) ← digitsOf 1 2 (← charOf '-' t)
  let (day, t) ← digitsOf 1 2 (← charOf '-' t)
  if t = [] then return ⟨year, month, day, none, none⟩
  let (time, zone) ← readTime? t
  return ⟨year, month, day, some time, zone⟩

/-- A date whose parts are full, or a date with a time of day. -/
def looksTimestamp (t : Text) : Bool :=
  match timestampParts? t with
  | some p => p.time.isSome || (p.month.length == 2 && p.day.length == 2)
  | none => false

/-- The text without a line feed at its end. -/
def withoutFinalFeed (t : Text) : Text := if t.getLast? = some '\n' then t.dropLast else t

/-- The text of an indicator that a node could start with. -/
def looksIndicator (t : Text) : Bool := t == ['!'] || t == ['&'] || t == ['*']

/-- What the text of a scalar is, but for a line feed at its end. -/
def Tag.ofForm (t : Text) : Tag :=
  if looksBoolean t then .bool
  else if looksFloat t then .float
  else if looksInt t then .int
  else if t = ['<', '<'] then .merge
  else if looksNull t then .null
  else if looksTimestamp t then .timestamp
  else if t = ['='] then .value
  else if looksIndicator t then .unknown
  else .str

/-- What a scalar without a tag is. A line feed alone is a text. -/
def Tag.ofLooks (t : Text) : Tag := if t = ['\n'] then .str else .ofForm (withoutFinalFeed t)

end TopicTables.Yaml
