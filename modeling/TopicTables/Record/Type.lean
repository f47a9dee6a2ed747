import TopicTables.Value.Text

/-! Record schemas and how their values are represented in memory.

A record type is built from leaf types by arrays, maps and structs. `representation`
gives the type that its values have in memory, or the first leaf for which none is
registered: arrays and maps are represented by their contents, a struct is a row
whatever its fields hold. -/
namespace TopicTables

/-- The types that hold no other types. -/
inductive LeafType where
  | byte
  | short
  | integer
  | long
  | float
  | double
  | decimal (precision scale : Int)
  | string
  | char (length : Int)
  | varchar (length : Int)
  | binary
  | boolean
  | date
  | timestamp
  | timestampNtz
  | dayTimeInterval (first last : Int)
  | null
  | yearMonthInterval (first last : Int)
  | calendarInterval
  | variant
  /-- A plain value that stands where a type should. -/
  | foreign (value : Value)

/-- The type of a record part or of one of its fields. -/
inductive RecordType where
  | leaf (type : LeafType)
  | array (element : RecordType)
  | map (key value : RecordType)
  | struct (fields : List (Text × RecordType))

/-- The types that values have in memory. -/
inductive Representation where
  | integer
  | float
  | decimal
  | text
  | bytes
  | boolean
  | date
  | timestamp
  | duration
  | nothing
  | row
  | list (element : Representation)
  | map (key value : Representation)
  deriving DecidableEq, Repr

def Representation.name : Representation → Text
  | .integer => "int".toList
  | .float => "float".toList
  | .decimal => "Decimal".toList
  | .text => "str".toList
  | .bytes => "bytes".toList
  | .boolean => "bool".toList
  | .date => "date".toList
  | .timestamp => "datetime".toList
  | .duration => "timedelta".toList
  | .nothing => "NoneType".toList
  | .row => "Row".toList
  | .list element => "list[".toList ++ element.name ++ [']']
  | .map key value => "dict[".toList ++ key.name ++ ", ".toList ++ value.name ++ [']']

namespace LeafType

/-- The registered representation of a leaf type. -/
def representation? : LeafType → Option Representation
  | .byte | .short | .integer | .long => some .integer
  | .float | .double => some .float
  | .decimal _ _ => some .decimal
  | .string | .char _ | .varchar _ => some .text
  | .binary => some .bytes
  | .boolean => some .boolean
  | .date => some .date
  | .timestamp | .timestampNtz => some .timestamp
  | .dayTimeInterval _ _ => some .duration
  | .null => some .nothing
  | .yearMonthInterval _ _ | .calendarInterval | .variant | .foreign _ => none

/-- The constructor text of a type that has parameters. -/
def applied (name : String) (arguments : List Int) : Text :=
  name.toList ++ '(' :: joinWith ", ".toList (arguments.map signedDecimal) ++ [')']

/-- The literal text of a leaf type. -/
def literal : LeafType → Except DigitLimit Text
  | .byte => .ok (applied "ByteType" [])
  | .short => .ok (applied "ShortType" [])
  | .integer => .ok (applied "IntegerType" [])
  | .long => .ok (applied "LongType" [])
  | .float => .ok (applied "FloatType" [])
  | .double => .ok (applied "DoubleType" [])
  | .decimal precision scale => .ok ("DecimalType(".toList ++ signedDecimal precision
      ++ ',' :: signedDecimal scale ++ [')'])
  | .string => .ok (applied "StringType" [])
  | .char length => .ok (applied "CharType" [length])
  | .varchar length => .ok (applied "VarcharType" [length])
  | .binary => .ok (applied "BinaryType" [])
  | .boolean => .ok (applied "BooleanType" [])
  | .date => .ok (applied "DateType" [])
  | .timestamp => .ok (applied "TimestampType" [])
  | .timestampNtz => .ok (applied "TimestampNTZType" [])
  | .dayTimeInterval first last => .ok (applied "DayTimeIntervalType" [first, last])
  | .null => .ok (applied "NullType" [])
  | .yearMonthInterval first last => .ok (applied "YearMonthIntervalType" [first, last])
  | .calendarInterval => .ok (applied "CalendarIntervalType" [])
  | .variant => .ok (applied "VariantType" [])
  | .foreign value => value.literal

/-- The wording of the error for a leaf type without a representation. -/
def unsupportedMessage (t : LeafType) : Except DigitLimit Text :=
  t.literal.map ("No representation type is registered for schema type ".toList ++ ·)

end LeafType

namespace RecordType

/-- The representation of a type, or the first leaf without one; the key of a map comes
before its value. -/
def representation : RecordType → Except LeafType Representation
  | .leaf t => match t.representation? with
    | some r => .ok r
    | none => .error t
  | .array element => element.representation.map .list
  | .map key value => do return .map (← key.representation) (← value.representation)
  | .struct _ => .ok .row

end RecordType
end TopicTables
