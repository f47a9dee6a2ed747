import TopicTables.Table.Resolve

/-! Drafts: the settings of one table while they are gathered. -/
namespace TopicTables

/-- The settings that were gathered for the table at an address. -/
structure Draft where
  address : Address
  settings : Bag

namespace Draft

/-- A draft without settings. -/
def start (a : Address) : Draft := ⟨a, ∅⟩

/-- The draft with a value under a key. -/
def set (d : Draft) (key : Text) (value : Value) : Draft :=
  { d with settings := d.settings.set key value }

/-- Resolves the gathered settings. -/
def build (d : Draft) : Except Failure Config := resolve d.address d.settings

end Draft
end TopicTables
