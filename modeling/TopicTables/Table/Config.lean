import TopicTables.Setting.Table

/-! Table configurations.

A configuration says how the records of a topic are written into one table. It is
identified by its `key`: the topic and the internal forms of keyspace and table. -/
namespace TopicTables

/-- What identifies a table configuration. -/
structure TableKey where
  topic : Text
  keyspace : Text
  table : Text
  deriving DecidableEq, Repr

/-- The configuration of one table. The two names are those written in the settings;
paths are built from them. -/
structure Config where
  topic : Text
  keyspace : Identifier
  table : Identifier
  mappingText : Text
  mapping : Mapping
  level : ConsistencyLevel
  ttl : Int
  nullToUnset : Bool
  deletesEnabled : Bool
  keyspaceName : Text
  tableName : Text

namespace Config

/-- What identifies the configuration. -/
def key (c : Config) : TableKey := ⟨c.topic, c.keyspace.internal, c.table.internal⟩

/-- Keyspace and table as they are shown. -/
def qualifiedName (c : Config) : Text := Identifier.qualified c.keyspace c.table

/-- Where the settings stand: the names as written, or the internal forms of those that
were not. -/
def address (c : Config) : Address where
  topic := c.topic
  keyspace := if c.keyspaceName = [] then c.keyspace.internal else c.keyspaceName
  table := if c.tableName = [] then c.table.internal else c.tableName

/-- The path of a name below the table. -/
def pathOf (c : Config) (name : Text) : Text := c.address.pathOf name

/-- The entry lines of a summary: the mapping text cut at its commas, without the spaces
that follow them. -/
def summaryEntries (mappingText : Text) : List Text :=
  match mappingText.splitOn ',' with
  | [] => []
  | first :: others => first :: others.map fun piece => piece.dropWhile (· = ' ')

def flagText (b : Bool) : Text := if b then "true".toList else "false".toList

/-- The configuration in a few lines. -/
def summary (c : Config) : Text :=
  "\x7bkeyspace: ".toList ++ c.keyspace.internal
    ++ ", table: ".toList ++ c.table.internal
    ++ ", cl: ".toList ++ c.level.name
    ++ ", ttl: ".toList ++ signedDecimal c.ttl
    ++ ", nullToUnset: ".toList ++ flagText c.nullToUnset
    ++ ", deletesEnabled: ".toList ++ flagText c.deletesEnabled
    ++ ", mapping:\n".toList
    ++ joinWith ['\n'] ((summaryEntries c.mappingText).map ("      ".toList ++ ·))
    ++ "\n\x7d".toList

end Config

/-- A set of configurations, one for each table. -/
abbrev ConfigSet := Roster Config.key

end TopicTables
