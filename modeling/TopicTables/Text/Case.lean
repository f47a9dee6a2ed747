import TopicTables.Text.Basic
import TopicTables.Text.CaseTable

/-! Lower and upper case of whole texts.

ASCII letters map by core's own functions and all other characters by the Unicode
tables. A character may map to several, and the lower case of a capital sigma
depends on where it stands: it is final when a letter comes before it and none
after it, whatever characters are skipped in between. -/
namespace TopicTables

/-- A small sigma inside a word. -/
def sigma : Char := 'σ'

/-- A small sigma at the end of a word. -/
def finalSigma : Char := 'ς'

/-- The character is skipped when the neighbours of a sigma are looked up. -/
def isCaseIgnorable (c : Char) : Bool := inRanges caseIgnorableRanges c.toNat

/-- The character is a letter with case, and is not skipped. -/
def isCased (c : Char) : Bool := inRanges casedRanges c.toNat

/-- The image of a character: its expansion, if it has one, or one character by the runs. -/
def mapCase (runs : List CaseRun) (expansions : List (Nat × List Nat)) (c : Char) : Text :=
  match expansions.find? (·.1 == c.toNat) with
  | some e => e.2.map Char.ofNat
  | none => [Char.ofNat (shiftByRuns runs c.toNat)]

/-- The lower case of a character other than a capital sigma. -/
def lowerOf (c : Char) : Text :=
  if c.toNat < 0x80 then [c.toLower] else mapCase lowerRuns lowerExpansions c

/-- The upper case of a character. -/
def upperOf (c : Char) : Text :=
  if c.toNat < 0x80 then [c.toUpper] else mapCase upperRuns upperExpansions c

/-- The first character that is not skipped is a letter with case. -/
def startsCased (t : Text) : Bool :=
  match t.dropWhile isCaseIgnorable with
  | [] => false
  | c :: _ => isCased c

/-- Lower case of a text that stands behind a letter with case, or does not. -/
def lowerAfter (letterBefore : Bool) : Text → Text
  | [] => []
  | c :: t =>
    (if c = 'Σ' then [if letterBefore && !startsCased t then finalSigma else sigma] else lowerOf c)
      ++ lowerAfter (if isCaseIgnorable c then letterBefore else isCased c) t

/-- The lower case of a text. -/
def lower (t : Text) : Text := lowerAfter false t

/-- The upper case of a text. -/
def upper (t : Text) : Text := t.flatMap upperOf

end TopicTables
