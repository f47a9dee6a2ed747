import TopicTables.Table.Config

/-! Resolving the configuration of one table.

The settings of the table are parsed through its schema, and then four checks follow:
the two names, the consistency level and the mapping. A check of a setting that the
schema did not accept is left out, so that no setting is reported twice. The table is
accepted only if there is no violation; otherwise all of them are reported. -/
namespace TopicTables

/-- Checks a keyspace or table name. -/
def checkName (a : Address) (name : Text) : Except Violation Identifier :=
  match Identifier.parse name with
  | .ok i => .ok i
  | .error e => .error ⟨a.stem, some (echoed name), .name e⟩

/-- Checks the name of a consistency level. -/
def checkLevel (a : Address) (t : Text) : Except Violation ConsistencyLevel :=
  match ConsistencyLevel.parse t with
  | .ok level => .ok level
  | .error _ => .error ⟨a.path .consistencyLevel, some (echoed t), .noLevel⟩

/-- Checks the text of a mapping. -/
def checkMapping (a : Address) (t : Text) : Except Violation Mapping :=
  let reading := Mapping.read (a.path .mapping) t
  if reading.ok then .ok reading.mapping
  else .error ⟨a.path .mapping, some (echoed t), .mapping reading.errors⟩

namespace Parsed

/-- The accepted text of a STRING setting. -/
def text? (p : Parsed) (name : Text) : Option Text :=
  match p.value? name with
  | some (.scalar (.text t)) => some t
  | _ => none

/-- The accepted value of a BOOLEAN setting. -/
def bool? (p : Parsed) (name : Text) : Option Bool :=
  match p.value? name with
  | some (.scalar (.bool b)) => some b
  | _ => none

/-- The accepted value of an INT setting. -/
def int? (p : Parsed) (name : Text) : Option Int :=
  match p.value? name with
  | some (.scalar (.int n)) => some n
  | _ => none

end Parsed

/-- The violation that a check found. -/
def found {α : Type} : Except Violation α → List Violation
  | .ok _ => []
  | .error v => [v]

/-- The violation that a check found, if it was made. -/
def foundIfMade {α : Type} : Option (Except Violation α) → List Violation
  | some check => found check
  | none => []

/-- The verdicts on the settings of a table, and the four checks. -/
structure Checks where
  parsed : Parsed
  keyspace : Except Violation Identifier
  table : Except Violation Identifier
  level : Option (Except Violation ConsistencyLevel)
  mapping : Option (Except Violation Mapping)

namespace Checks

/-- The checks that follow the parsing of the settings. -/
def of (a : Address) (parsed : Parsed) : Checks where
  parsed := parsed
  keyspace := checkName a a.keyspace
  table := checkName a a.table
  level := (parsed.text? (a.path .consistencyLevel)).map (checkLevel a)
  mapping := (parsed.text? (a.path .mapping)).map (checkMapping a)

/-- Everything that was found, in the order of the checks. -/
def violations (c : Checks) : List Violation :=
  c.parsed.violations ++ found c.keyspace ++ found c.table ++ foundIfMade c.level
    ++ foundIfMade c.mapping

/-- The configuration, if every part of it was accepted. -/
def config? (c : Checks) (a : Address) : Option Config := do
  let mappingText ← c.parsed.text? (a.path .mapping)
  let ttl ← c.parsed.int? (a.path .ttl)
  let nullToUnset ← c.parsed.bool? (a.path .nullToUnset)
  let deletesEnabled ← c.parsed.bool? (a.path .deletesEnabled)
  match c.keyspace, c.table, c.level, c.mapping with
  | .ok keyspace, .ok table, some (.ok level), some (.ok mapping) =>
    some {
      topic := a.topic, keyspace, table, mappingText, mapping, level, ttl, nullToUnset
      deletesEnabled, keyspaceName := a.keyspace, tableName := a.table }
  | _, _, _, _ => none

/-- The configuration if there is no violation, and all violations otherwise. -/
def outcome (c : Checks) (a : Address) : Except Failure Config :=
  match c.violations, c.config? a with
  | [], some config => .ok config
  | violations, _ => .error (.rejected violations)

end Checks

/-- The configuration of the table at an address, from the settings of a bag. -/
def resolve (a : Address) (bag : Bag) : Except Failure Config :=
  match (tableSchema a).parse bag with
  | .ok parsed => (Checks.of a parsed).outcome a
  | .error halt => .error (.aborted halt)

end TopicTables
