import TopicTables.Discovery.Basic
import TopicTables.Log.Logged

/-! Resolving and discovering tables, with what is logged on the way.

A table is told before it is looked at, and once more when it is resolved. A discovery ends
with a count, of its tables or of its violations. -/
namespace TopicTables

/-- The configuration of the table at an address, from the settings of a bag. -/
def resolveLogged (a : Address) (bag : Bag) : Logged Failure Config := do
  .emit [.resolving a]
  let c ← .quiet (resolve a bag)
  .emit [.resolved c.topic c.qualifiedName]
  return c

/-- Resolves the gathered settings. -/
def Draft.buildLogged (d : Draft) : Logged Failure Config := resolveLogged d.address d.settings

namespace Survey

/-- Builds one more draft. -/
def nextLogged (s : Survey) (d : Draft) : Logged Halt Survey := do
  match ← d.buildLogged.attempt with
  | .ok c => return s.receive d c
  | .error (.rejected violations) => return { s with violations := s.violations ++ violations }
  | .error (.aborted halt) => .quiet (.error halt)

/-- Ends a discovery. -/
def close (s : Survey) : Logged Failure (List Config) := do
  if s.violations = [] then
    .emit [.discovered s.configs.items.length]
    return s.configs.items
  else
    .emit [.invalid s.violations.length]
    .quiet (.error (.rejected s.violations))

end Survey

/-- Builds drafts one after the other. -/
def surveyLogged (drafts : List Draft) : Logged Halt Survey :=
  drafts.foldlM Survey.nextLogged .empty

/-- Every table that a bag configures. -/
def discoverLogged (bag : Bag) : Logged Failure (List Config) := do
  match ← (surveyLogged (group bag).items).attempt with
  | .ok s => s.close
  | .error halt => .quiet (.error (.aborted halt))

end TopicTables
