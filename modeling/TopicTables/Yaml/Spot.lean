import TopicTables.Number.Integer

/-! The characters of a document with their places.

Layout counts in a document, so every character carries its index, line and column. A
scan reads from the characters that are left and fails on a malformed document. Loops
run on fuel: each round takes at least one character, so the number of characters is
enough. -/
namespace TopicTables.Yaml

/-- A character and its place. -/
structure Spot where
  char : Char
  index : Nat
  line : Nat
  column : Nat

/-- A number in the syntax of a document that is too great. -/
inductive NumberFault where
  /-- An escape names a code point beyond the last one. -/
  | codePoint
  /-- An escape names a number of more than 31 bits. -/
  | wide
  /-- A version has too many digits. -/
  | digits (limit : DigitLimit)
  deriving DecidableEq, Repr

def NumberFault.message : NumberFault → Text
  | .codePoint => "chr() arg not in range(0x110000)".toList
  | .wide => "Python int too large to convert to C int".toList
  | .digits limit => limit.message

/-- What is wrong with the text of a document. -/
inductive SyntaxFault where
  | malformed
  /-- Collections stand too deep in each other. -/
  | tooDeep
  /-- A number is too great; the last character that was looked at has that index. -/
  | number (fault : NumberFault) (reach : Nat)
  deriving DecidableEq, Repr

def SyntaxFault.message : SyntaxFault → Text
  | .malformed => "malformed document".toList
  | .tooDeep => "maximum recursion depth exceeded".toList
  | .number fault _ => fault.message

/-- A step of reading a document: it takes characters from the front of those left. -/
abbrev Scan := StateT (List Spot) (Except SyntaxFault)

/-- Gives up on a malformed document. -/
def malformed {α : Type} : Scan α := throw .malformed

/-- Line breaks of every kind as line feeds, where a carriage return is concerned. -/
def unifyNewlines : Text → Text
  | [] => []
  | '\r' :: '\n' :: t => '\n' :: unifyNewlines t
  | c :: t => (if c = '\r' then '\n' else c) :: unifyNewlines t

/-- The character may occur in a document. -/
def isAllowed (c : Char) : Bool :=
  let n := c.toNat
  n == 0x9 || n == 0xA || n == 0xD || (0x20 ≤ n && n ≤ 0x7E) || n == 0x85
    || (0xA0 ≤ n && n ≤ 0xD7FF) || (0xE000 ≤ n && n ≤ 0xFFFD) || 0x10000 ≤ n

/-- A byte-order mark. It takes no column. -/
def byteOrderMark : Char := '\ufeff'

def isBreak (c : Char) : Bool := c == '\n' || c == '\u0085' || c == '\u2028' || c == '\u2029'

/-- A space or tab. -/
def isSpace (c : Char) : Bool := c == ' ' || c == '\t'

/-- Characters with their places, from a given place on. -/
def spotsFrom (index line column : Nat) : Text → List Spot
  | [] => []
  | c :: t =>
    ⟨c, index, line, column⟩ ::
      if isBreak c then spotsFrom (index + 1) (line + 1) 0 t
      else spotsFrom (index + 1) line (if c = byteOrderMark then column else column + 1) t

/-- The characters of a text with their places. A byte-order mark in front is dropped. -/
def spots (t : Text) : List Spot :=
  if t.head? = some byteOrderMark then (spotsFrom 0 0 0 t).drop 1 else spotsFrom 0 0 0 t

/-- How many characters are taken from a file at a time; at its start twice as many. -/
def blockLength : Nat := 4096

/-- The index of the first character at which the character of an index is noticed: the
start of its block. -/
def noticedAt (index : Nat) : Nat :=
  if index < 2 * blockLength then 0 else index / blockLength * blockLength

/-- Where the first character that may not occur is noticed, if there is one. -/
def intrusion? (t : Text) : Option Nat := (t.findIdx? (!isAllowed ·)).map noticedAt

/-- A fault in view of a character that may not occur: a number that is too great stays the
fault if it was read before that character is noticed. -/
def SyntaxFault.before (fault : SyntaxFault) (noticed : Option Nat) : SyntaxFault :=
  match fault with
  | .number _ reach => if noticed.any (· ≤ reach) then .malformed else fault
  | _ => fault

/-- The next character satisfies the test; nothing is left counts as `atEnd`. -/
def nextIs (atEnd : Bool) (p : Char → Bool) (s : List Spot) : Bool :=
  match s with
  | [] => atEnd
  | c :: _ => p c.char

/-- Nothing is left of the line. -/
def endsLine (s : List Spot) : Bool := nextIs true isBreak s

/-- A space, a line break or the end comes next. -/
def endsSpaced (s : List Spot) : Bool := nextIs true (fun c => c == ' ' || isBreak c) s

/-- A space, a tab, a line break or the end comes next. -/
def endsWord (s : List Spot) : Bool := nextIs true (fun c => isSpace c || isBreak c) s

/-- The characters that come next are these. -/
def startsWith (t : Text) (s : List Spot) : Bool := (s.take t.length).map Spot.char == t

/-- Three dashes or dots that stand alone: the mark of a document's start or end. -/
def atMarker (s : List Spot) : Bool :=
  (startsWith ['-', '-', '-'] s || startsWith ['.', '.', '.'] s) && endsWord (s.drop 3)

/-- The next character, if there is one. -/
def peek : Scan (Option Char) := return (← get).head?.map Spot.char

/-- Passes over a number of characters. -/
def skip (n : Nat) : Scan Unit := modify (·.drop n)

/-- Passes over the characters that satisfy a test. -/
def skipWhile (p : Char → Bool) : Scan Unit := modify (·.dropWhile fun s => p s.char)

/-- Takes the characters that satisfy a test. -/
def takeChars (p : Char → Bool) : Scan Text := do
  let s ← get
  set (s.dropWhile fun s => p s.char)
  return (s.takeWhile fun s => p s.char).map Spot.char

/-- Takes a line break, if one comes next. The two separators stand for themselves and
every other break for a line feed. -/
def takeBreak : Scan Text := do
  match ← peek with
  | some c =>
    if isBreak c then
      skip 1
      return [if c = '\u2028' ∨ c = '\u2029' then c else '\n']
    else return []
  | none => return []

/-- Passes over the rest of a line that may hold a comment and nothing else. -/
def skipIgnoredLine : Scan Unit := do
  skipWhile (· == ' ')
  if (← peek) = some '#' then skipWhile (!isBreak ·)
  if !endsLine (← get) then malformed
  let _ ← takeBreak

/-- A letter, digit, dash or underscore of ASCII. -/
def isWordChar (c : Char) : Bool := c.isAlphanum || c == '-' || c == '_'

/-- The value of a hexadecimal digit. -/
def hexDigit? (c : Char) : Option Nat :=
  if '0' ≤ c ∧ c ≤ '9' then some (c.toNat - 48)
  else if 'a' ≤ c ∧ c ≤ 'f' then some (c.toNat - 87)
  else if 'A' ≤ c ∧ c ≤ 'F' then some (c.toNat - 55)
  else none

/-- The number that hexadecimal digits denote. -/
def ofHex? (t : Text) : Option Nat :=
  t.foldl (fun n c => do return (← n) * 16 + (← hexDigit? c)) (some 0)

/-- Takes a number of exactly that many hexadecimal digits. -/
def takeHex (width : Nat) : Scan Nat := do
  let digits := ((← get).take width).map Spot.char
  if digits.length < width then malformed
  match ofHex? digits with
  | some n =>
    skip width
    return n
  | none => malformed

end TopicTables.Yaml
