import TopicTables.Text.Code
import TopicTables.Yaml.Spot

/-! Block scalars: lines that belong together by their indentation.

The header tells whether lines are kept or folded, what happens to the breaks at the
end, and how deep the lines are indented, if not as deep as the first of them. -/
namespace TopicTables.Yaml

/-- What happens to the line breaks at the end of a block. -/
inductive Chomping where
  /-- None of them stays. -/
  | strip
  /-- One of them stays. -/
  | clip
  /-- All of them stay. -/
  | keep

/-- Takes a chomping sign, if one comes next. -/
def takeChomping? : Scan (Option Chomping) := do
  match ← peek with
  | some '+' =>
    skip 1
    return some .keep
  | some '-' =>
    skip 1
    return some .strip
  | _ => return none

/-- Takes an indentation digit, if a digit comes next; zero is refused. -/
def takeIndentation? : Scan (Option Nat) := do
  match ← peek with
  | some c =>
    if isDigit c then
      if c = '0' then malformed
      skip 1
      return some (c.toNat - 48)
    else return none
  | none => return none

/-- Takes the header of a block after its indicator: the two signs in either order. -/
def takeHeader : Scan (Chomping × Option Nat) := do
  match ← takeChomping? with
  | some chomping =>
    let digit ← takeIndentation?
    if !endsSpaced (← get) then malformed
    return (chomping, digit)
  | none =>
    let digit ← takeIndentation?
    let chomping ← if digit.isSome then takeChomping? else pure none
    if !endsSpaced (← get) then malformed
    return (chomping.getD .clip, digit)

/-- The next character stands in that column. -/
def atColumn (column : Int) (s : List Spot) : Bool := s.head?.any fun s => s.column = column

/-- Passes over spaces up to a column. -/
def skipToColumn (column : Int) : Scan Unit :=
  modify (·.dropWhile fun s => s.char = ' ' ∧ (s.column : Int) < column)

/-- Takes the breaks of empty lines, passing over spaces up to a column on each. -/
def takeBlockBreaks (column : Int) : Nat → Scan Text
  | 0 => malformed
  | fuel + 1 => do
    skipToColumn column
    if nextIs false isBreak (← get) then
      let first ← takeBreak
      return first ++ (← takeBlockBreaks column fuel)
    else return []

/-- Takes the breaks of empty lines and all spaces, and tells the greatest column that
was reached. -/
def takeBlockLead (reached : Nat) : Nat → Scan (Text × Nat)
  | 0 => malformed
  | fuel + 1 => do
    match (← get).head? with
    | some s =>
      if s.char = ' ' then
        skip 1
        takeBlockLead (max reached (s.column + 1)) fuel
      else if isBreak s.char then
        let first ← takeBreak
        let (more, reached) ← takeBlockLead reached fuel
        return (first ++ more, reached)
      else return ([], reached)
    | none => return ([], reached)

/-- Takes the lines of a block. Given are the breaks before the next line; the results
are the text up to the last line, its own line break, and the breaks after it. -/
def takeBlockLines (folded : Bool) (column : Int) (before : Text) :
    Nat → Scan (Text × Text × Text)
  | 0 => malformed
  | fuel + 1 => do
    if atColumn column (← get) then
      let plainStart := nextIs false (!isSpace ·) (← get)
      let line ← takeChars (!isBreak ·)
      let lineBreak ← takeBreak
      let after ← takeBlockBreaks column fuel
      if atColumn column (← get) then
        let folds := folded && lineBreak == ['\n'] && plainStart
          && nextIs false (!isSpace ·) (← get)
        let joint := if folds then (if after = [] then [' '] else []) else lineBreak
        let (text, last, rest) ← takeBlockLines folded column after fuel
        return (before ++ line ++ joint ++ text, last, rest)
      else return (before ++ line, lineBreak, after)
    else return ([], [], before)

/-- Takes a block scalar whose indicator comes next, inside something indented by
`indent`. -/
def blockScalar (folded : Bool) (indent : Int) (fuel : Nat) : Scan Text := do
  skip 1
  let (chomping, digit) ← takeHeader
  skipIgnoredLine
  let least := max 1 (indent + 1)
  let (column, before) ← match digit with
    | some n => do
      let column := least + n - 1
      pure (column, ← takeBlockBreaks column fuel)
    | none => do
      let (before, reached) ← takeBlockLead 0 fuel
      pure (max least (reached : Int), before)
  let (text, last, rest) ← takeBlockLines folded column before fuel
  return ofChars (match chomping with
    | .strip => text
    | .clip => text ++ last
    | .keep => text ++ last ++ rest)

end TopicTables.Yaml
