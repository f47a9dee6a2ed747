import TopicTables.Text.Code
import TopicTables.Yaml.Spot

/-! Scalars between quotes.

Line breaks inside quotes fold: a single one becomes a space, and of several the first
is dropped. Between single quotes a quote is written twice; between double quotes a
backslash starts an escape. -/
namespace TopicTables.Yaml

/-- The characters that single letters stand for after a backslash. -/
def escapeLetters : List (Char × Char) :=
  [('0', '\x00'), ('a', '\x07'), ('b', '\x08'), ('t', '\t'), ('\t', '\t'), ('n', '\n'),
   ('v', '\x0b'), ('f', '\x0c'), ('r', '\r'), ('e', '\x1b'), (' ', ' '), ('"', '"'),
   ('\\', '\\'), ('/', '/'), ('N', '\u0085'), ('_', '\u00a0'), ('L', '\u2028'),
   ('P', '\u2029')]

/-- How many hexadecimal digits follow a letter after a backslash. -/
def escapeWidths : List (Char × Nat) := [('x', 2), ('u', 4), ('U', 8)]

/-- Takes the line breaks at the start of lines that are otherwise empty. A document
marker may not stand there. -/
def takeEmptyLines : Nat → Scan Text
  | 0 => malformed
  | fuel + 1 => do
    if atMarker (← get) then malformed
    skipWhile isSpace
    if nextIs false isBreak (← get) then
      let first ← takeBreak
      return first ++ (← takeEmptyLines fuel)
    else return []

/-- Takes a line break inside quotes and the empty lines after it, folded. -/
def takeFold (fuel : Nat) : Scan Text := do
  let first ← takeBreak
  let more ← takeEmptyLines fuel
  return (if first ≠ ['\n'] then first else if more = [] then [' '] else []) ++ more

/-- Takes the code point of an escape that is written with a number of hexadecimal digits. -/
def takeCodePoint (width : Nat) : Scan Nat := do
  let start := ((← get).head?.map Spot.index).getD 0
  let n ← takeHex width
  if n ≥ 0x80000000 then throw (.number .wide (start + width - 1))
  if n > 0x10FFFF then throw (.number .codePoint (start + width - 1))
  return n

/-- Takes what stands after a backslash, as code points. -/
def takeEscape (fuel : Nat) : Scan (List Nat) := do
  let some c ← peek | malformed
  match escapeLetters.find? (·.1 == c), escapeWidths.find? (·.1 == c) with
  | some e, _ =>
    skip 1
    return [e.2.toNat]
  | none, some e =>
    skip 1
    return [← takeCodePoint e.2]
  | none, none =>
    if isBreak c then
      let _ ← takeBreak
      return (← takeEmptyLines fuel).map Char.toNat
    else malformed

/-- Takes the rest of a quoted scalar after its opening quote, as code points. -/
def takeQuoted (quote : Char) : Nat → Scan (List Nat)
  | 0 => malformed
  | fuel + 1 => do
    let some c ← peek | malformed
    if c = quote then
      skip 1
      if quote = '\'' ∧ (← peek) = some '\'' then
        skip 1
        return quote.toNat :: (← takeQuoted quote fuel)
      else return []
    else if c = '\\' ∧ quote = '"' then
      skip 1
      let escaped ← takeEscape fuel
      return escaped ++ (← takeQuoted quote fuel)
    else if isSpace c ∨ isBreak c then
      let gap ← takeChars isSpace
      let gap ← if nextIs false isBreak (← get) then takeFold fuel else pure gap
      return gap.map Char.toNat ++ (← takeQuoted quote fuel)
    else
      skip 1
      return c.toNat :: (← takeQuoted quote fuel)

/-- Takes a quoted scalar whose quote comes next. -/
def quotedScalar (quote : Char) (fuel : Nat) : Scan Text := do
  skip 1
  return ofCodes (← takeQuoted quote fuel)

end TopicTables.Yaml
