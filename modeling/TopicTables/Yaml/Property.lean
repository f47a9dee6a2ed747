import TopicTables.Yaml.Token

/-! Tags, anchors and directives.

A tag is written in full between angle brackets or as a handle with a suffix; a
directive may say what a handle stands for. -/
namespace TopicTables.Yaml

/-- A character of a tag. -/
def isUriChar (c : Char) : Bool := c.isAlphanum || "-;/?:@&=+$,_.!~*'()[]".toList.contains c

/-- Takes bytes that are written as a percent sign and two hexadecimal digits. -/
def takePercentBytes : Nat → Scan (List UInt8)
  | 0 => malformed
  | fuel + 1 => do
    if (← peek) = some '%' then
      skip 1
      let n ← takeHex 2
      return n.toUInt8 :: (← takePercentBytes fuel)
    else return []

/-- Takes the characters of a tag, where bytes behind percent signs are UTF-8. -/
def takeUri : Nat → Scan Text
  | 0 => malformed
  | fuel + 1 => do
    let run ← takeChars isUriChar
    if (← peek) = some '%' then
      let bytes ← takePercentBytes fuel
      match String.fromUTF8? ⟨bytes.toArray⟩ with
      | some s => return run ++ s.toList ++ (← takeUri fuel)
      | none => malformed
    else return run

/-- Takes the characters of a tag, of which there must be some. -/
def uri (fuel : Nat) : Scan Text := do
  if !nextIs false (fun c => isUriChar c || c == '%') (← get) then malformed
  takeUri fuel

/-- Takes a handle whose exclamation mark comes next: that mark alone before a space, or a
word between two of them. -/
def handle : Scan Text := do
  skip 1
  if (← peek) = some ' ' then return ['!']
  let word ← takeChars isWordChar
  if (← peek) ≠ some '!' then malformed
  skip 1
  return '!' :: word ++ ['!']

/-- Another exclamation mark stands in the tag whose first one was passed over. -/
def hasHandle (s : List Spot) : Bool :=
  (s.takeWhile fun s => s.char ≠ ' ' ∧ !isBreak s.char).any fun s => s.char = '!'

/-- Takes a tag whose exclamation mark comes next. -/
def tag (fuel : Nat) : Scan Token := do
  let start ← get
  let next := start.drop 1
  let t ←
    if nextIs false (· == '<') next then do
      skip 2
      let suffix ← uri fuel
      if (← peek) ≠ some '>' then malformed
      skip 1
      pure (Token.tag none suffix)
    else if endsWord next then do
      skip 1
      pure (.tag none ['!'])
    else if hasHandle next then do
      let h ← handle
      pure (.tag (some h) (← uri fuel))
    else do
      skip 1
      pure (.tag (some ['!']) (← uri fuel))
  if !endsSpaced (← get) then malformed
  return t

/-- Takes the name of an anchor or alias whose indicator comes next. -/
def anchorName : Scan Text := do
  skip 1
  let name ← takeChars isWordChar
  let rest ← get
  if name = [] then malformed
  if !(endsWord rest || nextIs false ("?:,]\x7d%@\x60".toList.contains ·) rest) then malformed
  return name

/-- Takes a number of one or more digits. -/
def takeNumber : Scan Nat := do
  let start ← get
  let digits ← takeChars isDigit
  match start, readDigits digits with
  | s :: _, .error limit => throw (.number (.digits limit) (s.index + digits.length))
  | _, .ok n => if digits = [] then malformed else return n
  | [], _ => malformed

/-- Takes what a directive of that name says. -/
def directiveBody (name : Text) (fuel : Nat) : Scan Directive := do
  if name = "YAML".toList then
    skipWhile (· == ' ')
    let major ← takeNumber
    if (← peek) ≠ some '.' then malformed
    skip 1
    let _ ← takeNumber
    if !endsSpaced (← get) then malformed
    return .yaml major
  else if name = "TAG".toList then
    skipWhile (· == ' ')
    if (← peek) ≠ some '!' then malformed
    let h ← handle
    if (← peek) ≠ some ' ' then malformed
    skipWhile (· == ' ')
    let expansion ← uri fuel
    if !endsSpaced (← get) then malformed
    return .tag h expansion
  else
    skipWhile (!isBreak ·)
    return .other

/-- Takes a directive whose percent sign comes next. -/
def directive (fuel : Nat) : Scan Directive := do
  skip 1
  let name ← takeChars isWordChar
  if name = [] ∨ !endsSpaced (← get) then malformed
  let d ← directiveBody name fuel
  skipIgnoredLine
  return d

end TopicTables.Yaml
