import TopicTables.Setting.Schema

/-! The settings of a table.

A table is addressed by a topic, a keyspace name and a table name as they are written in
settings keys, and each of its five settings has the path
`topic.<topic>.<keyspace>.<table>.<setting>`. -/
namespace TopicTables

/-- The settings that every table has. -/
inductive TableSetting where
  | mapping
  | deletesEnabled
  | consistencyLevel
  | ttl
  | nullToUnset
  deriving DecidableEq, Repr

namespace TableSetting

/-- Every setting, in the order in which problems are reported. -/
def settings : List TableSetting :=
  [.mapping, .deletesEnabled, .consistencyLevel, .ttl, .nullToUnset]

/-- The base name of a setting. -/
def name : TableSetting → Text
  | .mapping => "mapping".toList
  | .deletesEnabled => "deletesEnabled".toList
  | .consistencyLevel => "consistencyLevel".toList
  | .ttl => "ttl".toList
  | .nullToUnset => "nullToUnset".toList

theorem mem_settings (s : TableSetting) : s ∈ settings := by cases s <;> decide

theorem name_injective {s t : TableSetting} (h : s.name = t.name) : s = t := by
  cases s <;> cases t <;> revert h <;> decide

end TableSetting

/-- Where the settings of a table stand: its topic, keyspace and table as written. -/
structure Address where
  topic : Text
  keyspace : Text
  table : Text
  deriving DecidableEq, Repr

namespace Address

/-- What all paths of the table start with. -/
def stem (a : Address) : Text :=
  joinWith ['.'] ["topic".toList, a.topic, a.keyspace, a.table]

/-- The path of a name below the table. -/
def pathOf (a : Address) (name : Text) : Text := a.stem ++ '.' :: name

/-- The path of a setting. -/
def path (a : Address) (s : TableSetting) : Text := a.pathOf s.name

end Address

/-- The time to live of rows that never expire. -/
def noTtl : Int := -1

namespace TableSetting

/-- The definition of a setting at an address. -/
def definition (a : Address) (s : TableSetting) : Definition :=
  match s with
  | .mapping =>
    { name := a.path s, type := .string, default := none, atLeast := none, importance := .high
      documentation :=
        "Mapping of record fields to table columns, in the form of 'col1=value.f1, col2=key.f1'".toList }
  | .deletesEnabled =>
    { name := a.path s, type := .boolean, default := some (.scalar (.bool true)), atLeast := none
      importance := .high
      documentation :=
        "Whether to delete rows where only the primary key is non-null".toList }
  | .consistencyLevel =>
    { name := a.path s, type := .string
      default := some (.text ConsistencyLevel.localOne.name)
      atLeast := none, importance := .high
      documentation := "Query consistency level".toList }
  | .ttl =>
    { name := a.path s, type := .int, default := some (.scalar (.int noTtl))
      atLeast := some noTtl, importance := .high
      documentation := "TTL of inserted rows in seconds; -1 means no TTL".toList }
  | .nullToUnset =>
    { name := a.path s, type := .boolean, default := some (.scalar (.bool true)), atLeast := none
      importance := .high
      documentation := "Whether null record fields are written as UNSET".toList }

theorem definition_name (a : Address) (s : TableSetting) : (s.definition a).name = a.path s := by
  cases s <;> rfl

end TableSetting

theorem Address.path_injective (a : Address) {s t : TableSetting} (h : a.path s = a.path t) :
    s = t := by
  simp only [Address.path, Address.pathOf] at h
  exact TableSetting.name_injective (List.cons.inj (List.append_cancel_left h)).2

/-- The settings of the table at an address. -/
def tableSchema (a : Address) : Schema where
  items := TableSetting.settings.map (TableSetting.definition a)
  distinct := by
    rw [List.map_map]
    have h : Definition.name ∘ TableSetting.definition a = a.path :=
      funext (TableSetting.definition_name a)
    rw [h]
    exact List.Pairwise.map _ (fun s t hst hp => hst (a.path_injective hp))
      (by decide : TableSetting.settings.Nodup)

end TopicTables
