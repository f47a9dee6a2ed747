import TopicTables.Discovery.Key
import TopicTables.Table.Draft
import TopicTables.Log.Event

/-! Discovery: every table that a flat bag configures.

The keys of a bag are gathered into one draft for each address, and the drafts are built
in the order in which their first key appears. A table may be configured once: a second
spelling of the same names is a violation. Discovery succeeds only if nothing at all is
wrong; otherwise it reports the violations of all tables. -/
namespace TopicTables

/-- Drafts in the order in which their first setting appears. -/
abbrev Drafts := Roster Draft.address

/-- Puts one setting of a bag into the draft of its table; other keys are ignored. -/
def Drafts.gather (drafts : Drafts) (setting : Text × Value) : Drafts :=
  match SettingKey.read? setting.1 with
  | none => drafts
  | some key =>
    let draft := (drafts.find? key.address).getD (Draft.start key.address)
    drafts.put (draft.set setting.1 setting.2)

/-- The settings of a bag, gathered by table. -/
def group (bag : Bag) : Drafts := bag.items.foldl Drafts.gather ∅

/-- What discovery has so far: the configurations and every violation. -/
structure Survey where
  configs : ConfigSet
  violations : List Violation

namespace Survey

/-- Nothing has been looked at. -/
def empty : Survey := ⟨∅, []⟩

/-- Takes in a resolved table; a later spelling of a table is a violation. -/
def receive (s : Survey) (d : Draft) (c : Config) : Survey :=
  match s.configs.add? c with
  | some configs => { s with configs }
  | none =>
    let first := ((s.configs.find? c.key).getD c).pathOf ['*']
    let finding := .repeated c.qualifiedName c.topic first
    { s with violations := s.violations ++ [⟨d.address.stem, none, finding⟩] }

/-- Builds one more draft. -/
def next (s : Survey) (d : Draft) : Except Halt Survey :=
  match d.build with
  | .ok c => .ok (s.receive d c)
  | .error (.rejected violations) => .ok { s with violations := s.violations ++ violations }
  | .error (.aborted halt) => .error halt

/-- The configurations if there is no violation, and all violations otherwise. -/
def outcome (s : Survey) : Except Failure (List Config) :=
  if s.violations = [] then .ok s.configs.items else .error (.rejected s.violations)

end Survey

/-- Builds drafts one after the other. -/
def survey (drafts : List Draft) : Except Halt Survey := drafts.foldlM Survey.next .empty

/-- Every table that a bag configures. -/
def discover (bag : Bag) : Except Failure (List Config) :=
  match survey (group bag).items with
  | .ok s => s.outcome
  | .error halt => .error (.aborted halt)

end TopicTables
