import TopicTables.Record.Type
import TopicTables.Mapping.Source

/-! The types of mapped fields.

The key or value of a record is a struct or a single value. A field is asked for by a
name or by the segments of a path; the reserved field `__self` always means the whole
part. Segments are followed one by one, so a top-level field whose name holds dots never
hides a nested one; a name is looked up at the top level first and then as a dotted
path. -/
namespace TopicTables

/-- How a field is asked for. -/
inductive FieldQuery where
  | name (name : Text)
  | path (segments : List Text)
  deriving DecidableEq, Repr

/-- A field that does not exist. -/
inductive FieldError where
  | emptyPath
  /-- No field of the schema has that dotted path. -/
  | missing (path : Text)
  /-- The part is a single value and has no fields. -/
  | single (query : FieldQuery)
  /-- The field exists, but its type has no representation. -/
  | unsupported (type : LeafType)

namespace FieldQuery

/-- The query asks for the whole part. -/
def isWhole : FieldQuery → Bool
  | .name t => t == wholeField
  | .path segments => segments == [wholeField]

/-- The query as messages show it: a name as it is, segments as literals in brackets. -/
def text : FieldQuery → Text
  | .name t => t
  | .path [segment] => '(' :: literal segment ++ [',', ')']
  | .path segments => '(' :: joinWith ", ".toList (segments.map literal) ++ [')']

end FieldQuery

/-- The wording of an error, where it can be written. -/
def FieldError.message : FieldError → Except DigitLimit Text
  | .emptyPath => .ok "An empty field path does not name a field.".toList
  | .missing path =>
    .ok ("Field '".toList ++ path ++ "' does not exist in the record schema.".toList)
  | .single query => .ok ("Field '".toList ++ query.text
      ++ "' does not exist: a primitive record part can only be mapped as a whole.".toList)
  | .unsupported type => type.unsupportedMessage

namespace RecordType

/-- The first field of that name. -/
def field? (fields : List (Text × RecordType)) (name : Text) : Option RecordType :=
  (fields.find? fun f => f.1 = name).map Prod.snd

/-- Follows segments through structs to the type of the last field. -/
def follow? : RecordType → List Text → Option RecordType
  | t, [] => some t
  | .struct fields, segment :: rest => (field? fields segment).bind fun t => t.follow? rest
  | _, _ :: _ => none

/-- The type of a field, or of a single value, as it is represented. -/
def represented (t : RecordType) : Except FieldError Representation :=
  match t.representation with
  | .ok r => .ok r
  | .error type => .error (.unsupported type)

end RecordType

/-- The destination column's own type, where it is known. -/
abbrev ColumnHint := Option Text

/-- What is known of a record part: the fields of a struct, or the type of a single
value. -/
inductive PartSchema where
  | struct (fields : List (Text × RecordType))
  | single (type : RecordType)

namespace PartSchema

/-- What is known of a record part of that type. -/
def ofType : RecordType → PartSchema
  | .struct fields => .struct fields
  | t => .single t

/-- The type of the field that the segments lead to. -/
def walk (fields : List (Text × RecordType)) (segments : List Text) :
    Except FieldError RecordType :=
  if segments = [] then .error .emptyPath
  else match (RecordType.struct fields).follow? segments with
    | some t => .ok t
    | none => .error (.missing (joinWith ['.'] segments))

/-- The type of the field with a name: a top-level field, or a dotted path. -/
def lookup (fields : List (Text × RecordType)) (name : Text) : Except FieldError RecordType :=
  match RecordType.field? fields name with
  | some t => .ok t
  | none => walk fields (name.splitOn '.')

/-- The type of the field that a query asks for. -/
def find (fields : List (Text × RecordType)) : FieldQuery → Except FieldError RecordType
  | .name t => lookup fields t
  | .path segments => walk fields segments

/-- The representation of a field. The type of the column is a hint that is not
consulted. -/
def fieldType (schema : PartSchema) (query : FieldQuery) (_hint : ColumnHint) :
    Except FieldError Representation :=
  match schema with
  | .struct fields =>
    if query.isWhole then .ok .row else (find fields query).bind RecordType.represented
  | .single t => if query.isWhole then t.represented else .error (.single query)

end PartSchema
end TopicTables
