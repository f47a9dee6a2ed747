import TopicTables.Text.Case
import TopicTables.Text.Literal
import TopicTables.Text.Quoted

/-! Identifiers: the names of keyspaces, tables and columns.

A name that starts with a double quote is quoted and keeps its spelling; any other name
is taken literally and compared in lower case. Two identifiers name the same thing when
their internal forms agree, however they were spelled. -/
namespace TopicTables

/-- How a name was written. -/
inductive Quoting where
  | quoted
  | unquoted
  deriving DecidableEq, Repr

/-- A name: its internal form, by which names are compared, and how it was written. -/
structure Identifier where
  internal : Text
  quoting : Quoting
  deriving DecidableEq, Repr

/-- A text that is no name. -/
inductive IdentifierError where
  | empty
  /-- A quoted name without its closing quote. -/
  | unterminated (raw : Text)
  /-- Two quotes with nothing between them. -/
  | emptyQuoted
  /-- A quote inside a quoted name that is not written twice. -/
  | loneQuote (raw : Text)
  deriving DecidableEq, Repr

def IdentifierError.message : IdentifierError → Text
  | .empty => "Identifier must not be empty.".toList
  | .unterminated raw => "Unterminated quoted identifier: ".toList ++ literal raw
  | .emptyQuoted => "Quoted identifier must not be empty.".toList
  | .loneQuote raw => "Unescaped double quote inside quoted identifier: ".toList ++ literal raw

namespace Identifier

/-- A name that is taken exactly as it is. -/
def quoted (exact : Text) : Identifier := ⟨exact, .quoted⟩

/-- A name that is compared without regard to case. -/
def unquoted (t : Text) : Identifier := ⟨lower t, .unquoted⟩

/-- The two name the same thing. -/
def same (a b : Identifier) : Bool := a.internal == b.internal

/-- Reads the rest of a quoted name, after its opening quote. -/
def parseQuoted (rest : Text) : Except IdentifierError Identifier :=
  if rest.getLast? ≠ some '"' then .error (.unterminated ('"' :: rest))
  else if rest.dropLast = [] then .error .emptyQuoted
  else match Quoted.undouble? rest.dropLast with
    | some exact => .ok (quoted exact)
    | none => .error (.loneQuote ('"' :: rest))

/-- Reads a name as it was written. -/
def parse : Text → Except IdentifierError Identifier
  | [] => .error .empty
  | '"' :: rest => parseQuoted rest
  | raw => .ok (unquoted raw)

/-- The name between double quotes. -/
def render (i : Identifier) : Text := Quoted.enclose (Quoted.double i.internal)

/-- A lower-case ASCII letter. -/
def isPlainLetter (c : Char) : Bool := 'a' ≤ c && c ≤ 'z'

/-- The internal form is a letter followed by letters, digits and underscores, so that it
reads back as it is without quotes. -/
def isPlain : Text → Bool
  | [] => false
  | c :: t => isPlainLetter c && t.all fun d => isPlainLetter d || isDigit d || d == '_'

/-- The name as it is shown: without quotes where they are not needed. -/
def pretty (i : Identifier) : Text := if isPlain i.internal then i.internal else i.render

/-- The shown name of a table together with its keyspace. -/
def qualified (keyspace table : Identifier) : Text := keyspace.pretty ++ '.' :: table.pretty

end Identifier
end TopicTables
