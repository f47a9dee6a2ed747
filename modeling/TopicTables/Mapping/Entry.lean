import TopicTables.Mapping.Source

/-! Entries of a mapping: `column=field`.

White space around the sides of an entry is ignored, and only an equal sign outside
quotes separates them. -/
namespace TopicTables

/-- A column and where its value comes from. -/
structure Entry where
  column : Identifier
  source : Source
  deriving DecidableEq, Repr

/-- A text that is no entry. -/
inductive EntryError where
  | empty
  /-- The double quotes do not pair up. -/
  | unterminated (entry : Text)
  | noAssignment (entry : Text)
  | manyAssignments (entry : Text)
  | noColumn (entry : Text)
  | noField (entry : Text)
  | badColumn (entry : Text) (error : IdentifierError)
  | badField (error : SourceError)
  deriving DecidableEq, Repr

def EntryError.message : EntryError → Text
  | .empty => "Empty mapping entry; remove the extra ','.".toList
  | .unterminated entry => about entry " has an unterminated double quote."
  | .noAssignment entry => about entry " is missing '=' between column and field."
  | .manyAssignments entry => about entry " has more than one '='."
  | .noColumn entry => about entry " is missing a column name."
  | .noField entry => about entry " is missing a field name."
  | .badColumn entry error => about entry " has an invalid column: " ++ error.message
  | .badField error => error.message
where
  /-- A sentence about the entry. -/
  about (entry : Text) (rest : String) : Text :=
    "Mapping entry ".toList ++ echoed entry ++ rest.toList

namespace Entry

/-- Reads the two sides of an entry. -/
def parseSides (entry column field : Text) : Except EntryError Entry :=
  if column = [] then .error (.noColumn entry)
  else if field = [] then .error (.noField entry)
  else match Identifier.parse column with
    | .error e => .error (.badColumn entry e)
    | .ok column => match Source.parse field with
      | .error e => .error (.badField e)
      | .ok source => .ok ⟨column, source⟩

/-- Reads one entry that has no white space at its ends. -/
def parse (entry : Text) : Except EntryError Entry :=
  if entry = [] then .error .empty
  else if !Quoted.isClosed entry then .error (.unterminated entry)
  else match Quoted.splitOutside '=' entry with
    | [column, field] => parseSides entry (strip column) (strip field)
    | _ :: _ :: _ => .error (.manyAssignments entry)
    | _ => .error (.noAssignment entry)

/-- The entry as it is written. -/
def render (e : Entry) : Text := e.column.pretty ++ '=' :: e.source.render

end Entry
end TopicTables
