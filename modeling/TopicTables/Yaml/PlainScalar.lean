import TopicTables.Text.Code
import TopicTables.Yaml.Spot

/-! Scalars without quotes.

A plain scalar ends at a colon that separates, at a comment and, inside brackets, at
any of their indicators. It may go on over several lines, which fold as between quotes,
as long as they are indented deeper than what holds it. -/
namespace TopicTables.Yaml

/-- A plain scalar does not go on with this character and what follows it. -/
def endsPlain (inFlow : Bool) (c : Char) (rest : List Spot) : Bool :=
  isSpace c || isBreak c
    || (c == ':'
      && (endsWord rest || (inFlow && nextIs false (",[]\x7b\x7d".toList.contains ·) rest)))
    || (inFlow && ",?[]\x7b\x7d".toList.contains c)

/-- The next run of a plain scalar on its line, and what follows it. -/
def splitPlain (inFlow : Bool) : List Spot → Text × List Spot
  | [] => ([], [])
  | s :: t =>
    if endsPlain inFlow s.char t then ([], s :: t)
    else
      let (run, rest) := splitPlain inFlow t
      (s.char :: run, rest)

/-- Takes the line breaks between two lines of a plain scalar, passing over spaces;
`none` if a document marker comes up. -/
def takePlainBreaks : Nat → Scan (Option Text)
  | 0 => malformed
  | fuel + 1 => do
    if nextIs false (· == ' ') (← get) then
      skip 1
      takePlainBreaks fuel
    else if nextIs false isBreak (← get) then
      let first ← takeBreak
      if atMarker (← get) then return none
      match ← takePlainBreaks fuel with
      | some more => return some (first ++ more)
      | none => return none
    else return some []

/-- Takes what stands between two runs of a plain scalar, folded, and tells whether a
line was ended. Nothing stands there if a document marker comes up. -/
def takePlainGap (fuel : Nat) : Scan (Text × Bool) := do
  let gap ← takeChars (· == ' ')
  if nextIs false isBreak (← get) then
    let first ← takeBreak
    if atMarker (← get) then return ([], true)
    match ← takePlainBreaks fuel with
    | none => return ([], true)
    | some more =>
      return ((if first ≠ ['\n'] then first else if more = [] then [' '] else []) ++ more, true)
  else return (gap, false)

/-- Takes the runs of a plain scalar that is indented by more than `indent`, and tells
whether a line was ended after the last one. -/
def takePlain (inFlow : Bool) (indent : Int) : Nat → Scan (Text × Bool)
  | 0 => malformed
  | fuel + 1 => do
    let (run, rest) := splitPlain inFlow (← get)
    set rest
    let (gap, ended) ← takePlainGap fuel
    let rest ← get
    let goesOn := gap ≠ [] && !nextIs true (· == '#') rest
      && (inFlow || rest.head?.any fun s => indent < (s.column : Int))
      && (splitPlain inFlow rest).1 ≠ []
    if goesOn then
      let (more, ended) ← takePlain inFlow indent fuel
      return (run ++ gap ++ more, ended)
    else return (run, ended)

/-- Takes a plain scalar, and tells whether a line was ended after it. -/
def plainScalar (inFlow : Bool) (indent : Int) (fuel : Nat) : Scan (Text × Bool) := do
  let (chars, ended) ← takePlain inFlow indent fuel
  return (ofChars chars, ended)

end TopicTables.Yaml
