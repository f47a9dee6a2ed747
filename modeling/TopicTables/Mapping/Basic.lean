import TopicTables.Mapping.Entry
import TopicTables.Roster

/-! Mappings: which record field goes into which column.

A mapping is written as entries between commas. Reading never stops at a defect: each
entry gives either a mapped column or one error, and the first entry of a column wins. -/
namespace TopicTables

/-- Columns with their sources, in the order in which they were first named. -/
abbrev Mapping := Roster fun e : Entry => e.column.internal

/-- A defect of a mapping. -/
inductive MappingError where
  /-- The setting at the path holds no entry at all. -/
  | blank (path : Text)
  | entry (error : EntryError)
  /-- The column was mapped by an earlier entry. -/
  | repeated (column : Identifier)
  deriving DecidableEq, Repr

def MappingError.message : MappingError → Text
  | .blank path => path ++ " must contain at least one 'column=field' entry.".toList
  | .entry error => error.message
  | .repeated column =>
    "Mapping references column ".toList ++ column.pretty ++ " more than once.".toList

namespace Mapping

/-- What was read of a mapping: the columns that were recognized and every defect. -/
structure Reading where
  mapping : Mapping
  errors : List MappingError

/-- Nothing has been read. -/
def Reading.empty : Reading := ⟨∅, []⟩

/-- The mapping was read without a defect. -/
def Reading.ok (r : Reading) : Bool := r.errors.isEmpty

/-- The texts of the entries. -/
def entryTexts (t : Text) : List Text := (Quoted.splitOutside ',' t).map strip

/-- Reads one more entry. -/
def Reading.next (r : Reading) (entry : Text) : Reading :=
  match Entry.parse entry with
  | .error e => { r with errors := r.errors ++ [.entry e] }
  | .ok e => match r.mapping.add? e with
    | some mapping => { r with mapping }
    | none => { r with errors := r.errors ++ [.repeated e.column] }

/-- Reads the mapping that the setting at the path holds. -/
def read (path t : Text) : Reading :=
  if strip t = [] then ⟨∅, [.blank path]⟩ else (entryTexts t).foldl Reading.next .empty

/-- The mapping as it is written. -/
def render (m : Mapping) : Text := joinWith ", ".toList (m.items.map Entry.render)

/-- The source of a column. -/
def source? (m : Mapping) (column : Identifier) : Option Source :=
  (m.find? column.internal).map Entry.source

/-- Maps a column to a source; a column that is mapped already keeps its place and its
first spelling. -/
def assign (m : Mapping) (e : Entry) : Mapping :=
  m.put { e with column := ((m.find? e.column.internal).map Entry.column).getD e.column }

/-- Both map the same columns to the same sources, in whatever order. -/
def same (a b : Mapping) : Bool :=
  a.size == b.size && a.items.all fun e => b.source? e.column == some e.source

end Mapping
end TopicTables
