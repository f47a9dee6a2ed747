import TopicTables.Text.Basic

/-! Paths of files.

A path is the names between its slashes; empty names and single dots do not count. -/
namespace TopicTables

/-- A path: what it starts from, and the names on the way. -/
structure Path where
  root : Text
  names : List Text
  deriving DecidableEq, Repr

namespace Path

/-- What a path starts from: nothing, one slash, or exactly two. -/
def rootOf : Text → Text
  | '/' :: '/' :: '/' :: _ => ['/']
  | '/' :: '/' :: _ => ['/', '/']
  | '/' :: _ => ['/']
  | _ => []

/-- The path that a text names. -/
def ofText (t : Text) : Path :=
  ⟨rootOf t, (t.splitOn '/').filter fun name => name ≠ [] ∧ name ≠ ['.']⟩

/-- The path as it is shown; a path without names is a dot. -/
def text (p : Path) : Text :=
  if p.root = [] ∧ p.names = [] then ['.'] else p.root ++ joinWith ['/'] p.names

end Path

/-- The name that leads to the directory above. -/
def parentName : Text := ['.', '.']

end TopicTables
