import TopicTables.Yaml.BlockScalar
import TopicTables.Yaml.PlainScalar
import TopicTables.Yaml.Property
import TopicTables.Yaml.QuotedScalar

/-! From characters to tokens.

Indentation opens and closes block collections. A key of a mapping shows only by the
colon after it, so a place where a key may start is remembered, and when its colon
comes, the place is marked; the marks are merged into the tokens at the end. Of a text
with a fault the tokens in front of it count, as far as their places are settled. -/
namespace TopicTables.Yaml

/-- A place where a key may have started. -/
structure PendingKey where
  /-- How many tokens stand before it. -/
  position : Nat
  /-- Nothing but a key can stand there. -/
  required : Bool
  start : Spot

/-- A place where a key did start. -/
structure KeyMark where
  position : Nat
  /-- The key opens a block mapping. -/
  opens : Bool

/-- How far a document has been read. -/
structure Lexer where
  rest : List Spot
  /-- The tokens so far, last first. -/
  tokens : List Token
  /-- How many tokens there are so far. -/
  count : Nat
  marks : List KeyMark
  /-- The column of the innermost block collection. -/
  indent : Int
  outerIndents : List Int
  keyAllowed : Bool
  /-- The pending key of every bracket that is open, innermost first, and of the block
  around them. -/
  pending : List (Option PendingKey)

namespace Lexer

/-- The start of a document. -/
def start (spots : List Spot) : Lexer := ⟨spots, [], 0, [], -1, [], true, [none]⟩

/-- Some bracket is open. -/
def inFlow (l : Lexer) : Bool := l.pending.length > 1

/-- Adds a token. -/
def push (l : Lexer) (t : Token) : Lexer :=
  { l with tokens := t :: l.tokens, count := l.count + 1 }

/-- Adds a token of one character. -/
def pushIndicator (l : Lexer) (t : Token) : Lexer := { l.push t with rest := l.rest.drop 1 }

/-- The column that comes next. -/
def column (l : Lexer) : Int :=
  match l.rest with
  | [] => 0
  | s :: _ => s.column

/-- Takes something from the characters. -/
def take {α : Type} (l : Lexer) (scan : Scan α) : Except SyntaxFault (α × Lexer) := do
  let (a, rest) ← scan.run l.rest
  return (a, { l with rest })

/-- Closes the block collections that are indented deeper than a column. -/
def closeBlocks (l : Lexer) (column : Int) : Lexer :=
  if l.inFlow then l
  else
    let outer := l.indent :: l.outerIndents
    let closed := outer.takeWhile (column < ·)
    let left := outer.dropWhile (column < ·)
    { l with
      tokens := closed.map (fun _ => Token.blockEnd) ++ l.tokens
      count := l.count + closed.length
      indent := left.headD (-1)
      outerIndents := left.tail }

/-- Opens a block collection at a column if it is deeper than the current one. -/
def openBlock (l : Lexer) (column : Int) (t : Token) : Lexer :=
  if l.indent < column then
    { l.push t with indent := column, outerIndents := l.indent :: l.outerIndents }
  else l

/-- Forgets the pending key of the innermost bracket, unless it is required. -/
def forgetKey (l : Lexer) : Except SyntaxFault Lexer :=
  match l.pending with
  | some key :: others =>
    if key.required then .error .malformed else .ok { l with pending := none :: others }
  | _ => .ok l

/-- Remembers that a key may start here. -/
def rememberKey (l : Lexer) : Except SyntaxFault Lexer := do
  match l.rest with
  | s :: _ =>
    if l.keyAllowed then
      let l ← l.forgetKey
      let required := !l.inFlow && l.indent = s.column
      return { l with pending := some ⟨l.count, required, s⟩ :: l.pending.tail }
    else return l
  | [] => return l

/-- Forgets every pending key that is too far away: on another line or more than 1024
characters back. -/
def forgetStaleKeys (l : Lexer) : Except SyntaxFault Lexer :=
  match l.rest with
  | [] => .ok l
  | s :: _ =>
    let stale (key : PendingKey) : Bool :=
      key.start.line ≠ s.line || s.index - key.start.index > 1024
    if l.pending.any (·.any fun key => stale key && key.required) then .error .malformed
    else .ok { l with
      pending := l.pending.map fun key => if key.any stale then none else key }

/-- Passes over spaces, comments and line breaks. A key may start on a new line of a
block. -/
def skipToToken (l : Lexer) : Nat → Lexer
  | 0 => l
  | fuel + 1 =>
    let rest := l.rest.dropWhile fun s => s.char = ' '
    let rest := if nextIs false (· == '#') rest then rest.dropWhile fun s => !isBreak s.char
      else rest
    if nextIs false isBreak rest then
      skipToToken { l with rest := rest.drop 1, keyAllowed := l.keyAllowed || !l.inFlow } fuel
    else { l with rest }

/-- Takes a directive or a document marker: it ends all blocks. -/
def topLevel (l : Lexer) (scan : Scan Token) : Except SyntaxFault Lexer := do
  let l ← (l.closeBlocks (-1)).forgetKey
  let (t, l) ← { l with keyAllowed := false }.take scan
  return l.push t

/-- Takes a scalar, anchor, alias or tag, with which a key may start. -/
def keyStart (l : Lexer) (scan : Scan Token) : Except SyntaxFault Lexer := do
  let l ← l.rememberKey
  let (t, l) ← { l with keyAllowed := false }.take scan
  return l.push t

/-- Opens a bracket. -/
def openFlow (l : Lexer) (t : Token) : Except SyntaxFault Lexer := do
  let l ← l.rememberKey
  return { l.pushIndicator t with pending := none :: l.pending, keyAllowed := true }

/-- Closes the innermost bracket. -/
def closeFlow (l : Lexer) (t : Token) : Except SyntaxFault Lexer := do
  if !l.inFlow then throw .malformed
  let l ← l.forgetKey
  return { l.pushIndicator t with pending := l.pending.tail, keyAllowed := false }

/-- Takes the comma between the items of a bracket. -/
def flowEntry (l : Lexer) : Except SyntaxFault Lexer := do
  let l ← l.forgetKey
  return { l.pushIndicator .flowEntry with keyAllowed := true }

/-- Takes the dash of a block sequence's item. -/
def blockEntry (l : Lexer) : Except SyntaxFault Lexer := do
  if !l.inFlow && !l.keyAllowed then throw .malformed
  let l := if l.inFlow then l else l.openBlock l.column .blockSequenceStart
  let l ← l.forgetKey
  return { l.pushIndicator .blockEntry with keyAllowed := true }

/-- Takes the question mark of an explicit key. -/
def explicitKey (l : Lexer) : Except SyntaxFault Lexer := do
  if !l.inFlow && !l.keyAllowed then throw .malformed
  let l := if l.inFlow then l else l.openBlock l.column .blockMappingStart
  let l ← l.forgetKey
  return { l.pushIndicator .key with keyAllowed := !l.inFlow }

/-- Takes the colon before a value, and marks the place where its key started. -/
def valueIndicator (l : Lexer) : Except SyntaxFault Lexer := do
  match l.pending with
  | some key :: others =>
    let column : Int := key.start.column
    let opens := !l.inFlow && l.indent < column
    let l := { l with pending := none :: others, marks := ⟨key.position, opens⟩ :: l.marks }
    let l := if opens then { l with indent := column, outerIndents := l.indent :: l.outerIndents }
      else l
    return { l.pushIndicator .value with keyAllowed := false }
  | _ =>
    if !l.inFlow && !l.keyAllowed then throw .malformed
    let l := if l.inFlow then l else l.openBlock l.column .blockMappingStart
    let l ← l.forgetKey
    return { l.pushIndicator .value with keyAllowed := !l.inFlow }

/-- Takes a block scalar. -/
def block (l : Lexer) (folded : Bool) (fuel : Nat) : Except SyntaxFault Lexer := do
  let l ← l.forgetKey
  let (t, l) ← l.take (blockScalar folded l.indent fuel)
  return { l.push (.scalar t false) with keyAllowed := true }

/-- Takes a plain scalar. A key may start after it if it ended its line. -/
def plain (l : Lexer) (fuel : Nat) : Except SyntaxFault Lexer := do
  let l ← l.rememberKey
  let ((t, ended), l) ← l.take (plainScalar l.inFlow l.indent fuel)
  return { l.push (.scalar t true) with keyAllowed := ended }

/-- A plain scalar may start with this character before that rest. -/
def startsPlain (inFlow : Bool) (c : Char) (rest : List Spot) : Bool :=
  !(isSpace c || isBreak c || "-?:,[]\x7b\x7d#&*!|>'\"%@\x60".toList.contains c)
    || (!endsWord rest && (c == '-' || (!inFlow && (c == '?' || c == ':'))))

/-- Takes the token that starts with the next character. -/
def token (l : Lexer) (s : Spot) (fuel : Nat) : Except SyntaxFault Lexer :=
  let c := s.char
  let rest := l.rest.drop 1
  let marker := s.column = 0 && atMarker l.rest
  if c = '%' && s.column = 0 then l.topLevel (.directive <$> directive fuel)
  else if marker then l.topLevel do
    skip 3
    return if c = '-' then .documentStart else .documentEnd
  else if c = '[' then l.openFlow .flowSequenceStart
  else if c = '{' then l.openFlow .flowMappingStart
  else if c = ']' then l.closeFlow .flowSequenceEnd
  else if c = '}' then l.closeFlow .flowMappingEnd
  else if c = ',' then l.flowEntry
  else if c = '-' && endsWord rest then l.blockEntry
  else if c = '?' && (l.inFlow || endsWord rest) then l.explicitKey
  else if c = ':' && (l.inFlow || endsWord rest) then l.valueIndicator
  else if c = '*' then l.keyStart (.alias <$> anchorName)
  else if c = '&' then l.keyStart (.anchor <$> anchorName)
  else if c = '!' then l.keyStart (tag fuel)
  else if c = '|' && !l.inFlow then l.block false fuel
  else if c = '>' && !l.inFlow then l.block true fuel
  else if c = '\'' || c = '"' then l.keyStart ((Token.scalar · false) <$> quotedScalar c fuel)
  else if startsPlain l.inFlow c rest then l.plain fuel
  else .error .malformed

/-- Puts key marks, ascending, into tokens from a position on. -/
def mergeMarks (position : Nat) : List KeyMark → List Token → List Token
  | mark :: marks, t :: tokens =>
    if mark.position = position then
      (if mark.opens then [.blockMappingStart, .key] else [.key])
        ++ t :: mergeMarks (position + 1) marks tokens
    else t :: mergeMarks (position + 1) (mark :: marks) tokens
  | _, tokens => tokens

/-- The tokens in order, with the key marks merged in. -/
def merged (l : Lexer) : List Token :=
  mergeMarks 0 (l.marks.mergeSort fun a b => a.position ≤ b.position) l.tokens.reverse

/-- The tokens whose places are settled: those in front of the first pending key. -/
def settled (l : Lexer) : List Token :=
  let pending := l.pending.filterMap fun key => key.map PendingKey.position
  let count := pending.foldl min l.count
  { l with tokens := l.tokens.drop (l.count - count) }.merged

/-- Closes everything at the end of the text. -/
def finish (l : Lexer) : Except SyntaxFault Lexer := (l.closeBlocks (-1)).forgetKey

/-- Takes one more token and what indentation closes in front of it; `none` at the end of
the text. -/
def step (l : Lexer) (fuel : Nat) : Except SyntaxFault (Option Lexer) := do
  let l ← (l.skipToToken fuel).forgetStaleKeys
  match l.rest with
  | [] => return none
  | s :: _ => some <$> (← (l.closeBlocks s.column).token s fuel).forgetStaleKeys

/-- The character of an index has been looked at. -/
def hasReached (l : Lexer) (index : Nat) : Bool :=
  match l.rest with
  | [] => true
  | s :: _ => index ≤ s.index

/-- Takes tokens up to the end of the text or a fault. A character that may not occur is a
fault where it is noticed. A scan inside has fuel of its own. -/
def run (l : Lexer) (noticed : Option Nat) (scanFuel : Nat) : Nat → TokenStream
  | 0 => ⟨l.settled, some .malformed⟩
  | fuel + 1 => match l.step scanFuel with
    | .error fault => ⟨l.settled, some (fault.before noticed)⟩
    | .ok (some next) =>
      if noticed.any next.hasReached then ⟨l.settled, some .malformed⟩
      else next.run noticed scanFuel fuel
    | .ok none =>
      if noticed.isSome then ⟨l.settled, some .malformed⟩
      else match l.finish with
        | .error fault => ⟨l.settled, some fault⟩
        | .ok last => ⟨last.merged, none⟩

end Lexer

/-- The tokens of a document. -/
def tokens (t : Text) : TokenStream :=
  let spots := spots t
  (Lexer.start spots).run (intrusion? t) (spots.length + 1) (spots.length + 1)

end TopicTables.Yaml
