import TopicTables.Identifier
import TopicTables.Text.Blank

/-! Sources: where the value of a mapped column comes from.

A source names a part of the record, its key or its value, and a path of field names
inside that part. A bare part stands for the whole of it and is kept as the reserved
field `__self`. -/
namespace TopicTables

/-- A part of a record. -/
inductive RecordPart where
  | key
  | value
  deriving DecidableEq, Repr

def RecordPart.name : RecordPart → Text
  | .key => "key".toList
  | .value => "value".toList

/-- The reserved field that stands for the whole part. -/
def wholeField : Text := "__self".toList

/-- A field of a record: a part and the path inside it. -/
structure Source where
  part : RecordPart
  segments : List Text
  deriving DecidableEq, Repr

/-- A text that names no source. -/
inductive SourceError where
  /-- The text does not start with a part. -/
  | noPart (source : Text)
  /-- A segment of the path is empty or holds a character that needs quotes. -/
  | badSegment (source : Text)
  /-- The path is a malformed quoted name. -/
  | badName (source : Text) (error : IdentifierError)
  deriving DecidableEq, Repr

def SourceError.message : SourceError → Text
  | .noPart source =>
    "Invalid field name ".toList ++ echoed source
      ++ ": field names in mapping must be 'key', 'value', or start with 'key.' or 'value.'.".toList
  | .badSegment source =>
    "Invalid field name ".toList ++ echoed source
      ++ ": each segment of a nested field path must be non-empty and must not contain whitespace, quotes, '=' or ','.".toList
  | .badName source error =>
    "Invalid field name ".toList ++ echoed source ++ ": ".toList ++ error.message

namespace Source

/-- The whole of a part. -/
def whole (part : RecordPart) : Source := ⟨part, [wholeField]⟩

/-- The path as one name, its segments joined with dots. -/
def field (s : Source) : Text := joinWith ['.'] s.segments

/-- The source is the whole of its part. -/
def isWhole (s : Source) : Bool := s.segments == [wholeField]

/-- The source as an identifier, such as `value.f1`. -/
def toIdentifier (s : Source) : Identifier := .quoted (s.part.name ++ '.' :: s.field)

/-- The character cannot stand in a segment without quotes. -/
def needsQuotes (c : Char) : Bool := isBlank c || c == '"' || c == '.' || c == '=' || c == ','

/-- The segment can be written without quotes. -/
def isPlainSegment (t : Text) : Bool := t ≠ [] && !t.any needsQuotes

/-- The part that a text starts with, and what follows it. -/
def splitPart? : Text → Option (RecordPart × Text)
  | 'k' :: 'e' :: 'y' :: rest => some (.key, rest)
  | 'v' :: 'a' :: 'l' :: 'u' :: 'e' :: rest => some (.value, rest)
  | _ => none

/-- Reads the path behind a part: one quoted name, or plain segments between dots. -/
def parsePath (source : Text) (part : RecordPart) (path : Text) : Except SourceError Source :=
  if path.head? = some '"' then
    match Identifier.parse path with
    | .ok name => .ok ⟨part, [name.internal]⟩
    | .error e => .error (.badName source e)
  else if (path.splitOn '.').all isPlainSegment then .ok ⟨part, path.splitOn '.'⟩
  else .error (.badSegment source)

/-- Reads a source. -/
def parse (source : Text) : Except SourceError Source :=
  match splitPart? source with
  | some (part, []) => .ok (whole part)
  | some (part, '.' :: path) => parsePath source part path
  | _ => .error (.noPart source)

/-- A segment as it is written: in quotes if one of its characters needs them. -/
def renderSegment (t : Text) : Text :=
  if t.any needsQuotes then Quoted.enclose (Quoted.double t) else t

/-- The source as it is written. -/
def render (s : Source) : Text := joinWith ['.'] (s.part.name :: s.segments.map renderSegment)

end Source
end TopicTables
