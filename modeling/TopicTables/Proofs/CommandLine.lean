import TopicTables.CommandLine
import TopicTables.Proofs.Discovery.Log
import TopicTables.Proofs.Discovery.Order
import TopicTables.Proofs.Log.Console

/-! What a check tells of a bag of settings.

Whatever a bag was loaded from, it is checked by `checkBag`, which resolves its tables one
after the other. Three parts of the program log while it does: each table says that it is being
looked at and, if it resolves, that it did; discovery closes with a count; and the command line
ends with the tables or with the violations (`checkBag_of_ok`, `checkBag_of_rejected`). Sorted
by severity these are the lines that `Accepts` and `Refuses` give word by word, and a console
prints those that reach its least level. So the exit code and the lines of a check are those of
the discovery in the bag (`check_tells`). -/
namespace TopicTables

/-! ### Lines -/

/-- The line that a table is being looked at. -/
def Address.resolvingLine (a : Address) : Text := "Resolving settings for ".toList ++ a.stem

/-- The line that a table resolved. -/
def Config.resolvedLine (c : Config) : Text :=
  "Resolved table config for topic ".toList ++ c.topic ++ " -> ".toList ++ c.qualifiedName

/-- The line that ends a check with a table. -/
def Config.summaryLine (c : Config) : Text := c.topic ++ ": ".toList ++ c.summary

/-- The line on how many tables there are. -/
def discoveredLine (count : Nat) : Text :=
  "Discovered ".toList ++ decimal count ++ " table config(s).".toList

/-- The line on how many violations there are. -/
def invalidLine (count : Nat) : Text := decimal count ++ " table setting(s) are invalid.".toList

/-- The line that a file has no tables. -/
def noTablesLine (path : Text) : Text := "No table settings found in ".toList ++ path

namespace Report

/-- The bag is accepted with these tables. -/
structure Accepts (path : Text) (configs : List Config) (r : Report) : Prop where
  exit : r.outcome = .ok 0
  error : r.lines .error = []
  /-- Each table that resolved, how many there are, and the summary of each. -/
  info : r.lines .info = configs.map Config.resolvedLine
    ++ discoveredLine configs.length :: configs.map Config.summaryLine
  warning : r.lines .warning = if configs = [] then [noTablesLine path] else []

/-- The bag is refused with these violations, though some tables of it resolve. -/
structure Refuses (violations : List Violation) (configs : List Config) (r : Report) : Prop where
  exit : r.outcome = .ok 1
  /-- How many violations there are, and each of them. -/
  error : r.lines .error = invalidLine violations.length :: violations.map Violation.render
  info : r.lines .info = configs.map Config.resolvedLine
  warning : r.lines .warning = []

/-- The report tells what discovery finds in a bag with these tables. -/
structure Tells (path : Text) (bag : Bag) (tables : List Address) (r : Report) : Prop where
  /-- The tables are those that some key is read for. -/
  mem_tables : ∀ a, a ∈ tables ↔ ∃ e ∈ bag.items, a.receives e = true
  /-- A table whose first key appears earlier stands earlier, so none stands twice. -/
  ordered : tables.Pairwise fun a b =>
    bag.items.findIdx a.receives < bag.items.findIdx b.receives
  debug : r.lines .debug = tables.map Address.resolvingLine
  /-- If discovery returns, it returns a configuration of each table. -/
  accepted : ∀ configs, discover bag = .ok configs →
    r.Accepts path configs ∧ configs.length = tables.length ∧
      (r.lines .info).length = 2 * tables.length + 1
  /-- If it refuses the bag, every table that resolves is told nevertheless. -/
  refused : ∀ violations, discover bag = .error (.rejected violations) →
    r.Refuses violations (resolved (resolve · bag) tables) ∧
      (r.lines .error).length = violations.length + 1 ∧
      (r.lines .info).length = tables.countP fun a => (resolve a bag).isOk
  /-- A console shows all lines of the severities that reach its least level, and no others. -/
  shown : ∀ (o : LogOptions) (least : Nat) (seconds : Int) (millis : Nat) (s : Severity),
    messagesOf s (o.records least seconds millis r.log) =
      if least ≤ s.level then r.lines s else []
  /-- What a console prints is one line for each, with its text inside. -/
  printed : ∀ (o : LogOptions) (least : Nat) (seconds : Int) (millis : Nat) (printed : List Text),
    o.lines least seconds millis r.log = .ok printed →
      List.Forall₂ (fun shown line => shown.message <:+: line)
        (o.records least seconds millis r.log) printed

end Report

/-! ### The tables, one after the other -/

section Tables
variable {bag : Bag}

theorem lines_resolveLogged (s : Severity) (a : Address) :
    (resolveLogged a bag).lines s =
      (if s = .debug then [a.resolvingLine] else []) ++
        if s = .info then (resolved (resolve · bag) [a]).map Config.resolvedLine else [] := by
  unfold Logged.lines
  cases hresolve : resolve a bag with
  | ok c =>
    have hresolved : resolved (resolve · bag) [a] = [c] := resolved_of_ok hresolve
    rw [resolveLogged_of_ok hresolve, hresolved]
    cases s <;> rfl
  | error failure =>
    have hresolved : resolved (resolve · bag) [a] = [] := resolved_of_error hresolve
    rw [resolveLogged_of_error hresolve, hresolved]
    cases s <;> rfl

/-- Every table is told before it is looked at, and once more if it resolves; nothing else
is logged. -/
theorem linesOf_tables (s : Severity) (tables : List Address) :
    linesOf s (tables.flatMap fun a => (resolveLogged a bag).log) =
      (if s = .debug then tables.map Address.resolvingLine else []) ++
        if s = .info then (resolved (resolve · bag) tables).map Config.resolvedLine else [] := by
  induction tables with
  | nil => cases s <;> rfl
  | cons a tables ih =>
    have hresolved : resolved (resolve · bag) (a :: tables) =
        resolved (resolve · bag) [a] ++ resolved (resolve · bag) tables :=
      resolved_append [a] tables
    have hfirst : linesOf s (resolveLogged a bag).log = _ := lines_resolveLogged s a
    rw [List.flatMap_cons, linesOf_append, hfirst, ih, hresolved]
    cases s <;> simp

theorem length_resolved (resolution : Address → Except Failure Config) (tables : List Address) :
    (resolved resolution tables).length = tables.countP fun a => (resolution a).isOk := by
  rw [resolved, List.length_filterMap_eq_countP]
  refine List.countP_congr fun a _ => ?_
  cases resolution a <;> simp [Except.toOption, Except.isOk, Except.toBool]

end Tables

/-! ### The whole report -/

section Check
variable (path : Text) {bag : Bag}

theorem checkBag_of_ok {configs : List Config} (h : discover bag = .ok configs) :
    checkBag path bag = ⟨.ok 0, tablesLog bag ++ .discovered configs.length ::
      ((if configs = [] then [.noTables path] else []) ++
        configs.map fun c => .summary c.topic c.summary)⟩ := by
  unfold checkBag
  rw [discoverLogged_of_ok h]
  cases configs <;> simp

theorem checkBag_of_rejected {violations : List Violation}
    (h : discover bag = .error (.rejected violations)) :
    checkBag path bag = ⟨.ok 1, tablesLog bag ++ .invalid violations.length ::
      violations.map .violation⟩ := by
  unfold checkBag
  rw [discoverLogged_of_rejected h]
  simp

theorem lines_checkBag_of_ok {configs : List Config} (h : discover bag = .ok configs)
    (s : Severity) : (checkBag path bag).lines s =
      (if s = .debug then (group bag).keys.map Address.resolvingLine else []) ++
      (if s = .info then configs.map Config.resolvedLine
        ++ discoveredLine configs.length :: configs.map Config.summaryLine else []) ++
      if s = .warning ∧ configs = [] then [noTablesLine path] else [] := by
  have htables : resolved (resolve · bag) (group bag).keys = configs :=
    resolved_eq_of_map (map_resolve_of_discover h)
  have hsummaries : linesOf s (configs.map fun c => .summary c.topic c.summary) = _ :=
    linesOf_map s _ Config.summaryLine .info (fun _ => rfl) (fun _ => rfl) configs
  rw [checkBag_of_ok path h, Logged.lines, linesOf_append, tablesLog, linesOf_tables, htables,
    linesOf_cons s _ (discoveredLine configs.length) .info rfl rfl, linesOf_append, hsummaries]
  cases configs with
  | nil => cases s <;> rfl
  | cons c configs => cases s <;> simp [linesOf]

theorem lines_checkBag_of_rejected {violations : List Violation}
    (h : discover bag = .error (.rejected violations)) (s : Severity) :
    (checkBag path bag).lines s =
      (if s = .debug then (group bag).keys.map Address.resolvingLine else []) ++
      (if s = .info then
        (resolved (resolve · bag) (group bag).keys).map Config.resolvedLine else []) ++
      if s = .error then invalidLine violations.length :: violations.map Violation.render
        else [] := by
  have hviolations : linesOf s (violations.map .violation) = _ :=
    linesOf_map s _ Violation.render .error (fun _ => rfl) (fun _ => rfl) violations
  rw [checkBag_of_rejected path h, Logged.lines, linesOf_append, tablesLog, linesOf_tables,
    linesOf_cons s _ (invalidLine violations.length) .error rfl rfl, hviolations]
  cases s <;> simp

theorem accepts_checkBag {configs : List Config} (h : discover bag = .ok configs) :
    (checkBag path bag).Accepts path configs := by
  have hlines := lines_checkBag_of_ok path h
  refine ⟨by rw [checkBag_of_ok path h], ?_, ?_, ?_⟩
  · rw [hlines]
    simp
  · rw [hlines]
    simp
  · rw [hlines]
    simp

theorem refuses_checkBag {violations : List Violation}
    (h : discover bag = .error (.rejected violations)) :
    (checkBag path bag).Refuses violations (resolved (resolve · bag) (group bag).keys) := by
  have hlines := lines_checkBag_of_rejected path h
  refine ⟨by rw [checkBag_of_rejected path h], ?_, ?_, ?_⟩
  · rw [hlines]
    simp
  · rw [hlines]
    simp
  · rw [hlines]
    simp

/-- **A check tells exactly what discovery found.** Where discovery is not cut short, the exit
code and the lines of every severity are those of the tables and of the violations, and a
console shows those that reach its least level. -/
theorem check_tells (h : ∀ halt, discover bag ≠ .error (.aborted halt)) :
    (checkBag path bag).Tells path bag (group bag).keys := by
  have hgathered := gathered_group bag
  refine ⟨hgathered.mem_keys, hgathered.ordered, ?_, fun configs hok => ?_,
    fun violations hrejected => ?_, fun o least seconds millis s => ?_,
    fun o least seconds millis _ => o.forall₂_lines least seconds millis⟩
  · cases hdiscover : discover bag with
    | ok configs => simp [lines_checkBag_of_ok path hdiscover]
    | error failure =>
      cases failure with
      | rejected violations => simp [lines_checkBag_of_rejected path hdiscover]
      | aborted halt => exact absurd hdiscover (h halt)
  · have haccepts := accepts_checkBag path hok
    have hlength : (group bag).keys.length = configs.length := by
      simpa using congrArg List.length (map_resolve_of_discover hok)
    refine ⟨haccepts, hlength.symm, ?_⟩
    rw [haccepts.info, hlength]
    simp only [List.length_append, List.length_cons, List.length_map]
    omega
  · have hrefuses := refuses_checkBag path hrejected
    refine ⟨hrefuses, ?_, ?_⟩
    · rw [hrefuses.error, List.length_cons, List.length_map]
    · rw [hrefuses.info, List.length_map, length_resolved]
  · exact o.messagesOf_records least seconds millis s _

end Check

/-- A bag with one table, a bag with a table that is spelled twice and another of which nothing
is right, and a bag without tables. The first is shown to someone who asks for no details. -/
theorem check_tells_three :
    ∃ (o : LogOptions) (path : Text) (good bad : Bag),
      ((∀ halt, discover good ≠ .error (.aborted halt)) ∧
        (checkBag path good).Tells path good (group good).keys ∧
        (checkBag path good).outcome = .ok 0 ∧
        o.lines 20 0 0 (checkBag path good).log = .ok
          ["1970-01-01 00:00:00,000 - sink-config - INFO - ".toList
              ++ "Resolved table config for topic a -> k.t".toList,
            "1970-01-01 00:00:00,000 - sink-config - INFO - Discovered 1 table config(s).".toList,
            "1970-01-01 00:00:00,000 - sink-config - INFO - ".toList
              ++ "a: \x7bkeyspace: k, table: t, cl: LOCAL_ONE, ttl: -1, nullToUnset: true, ".toList
              ++ "deletesEnabled: true, mapping:\n      c=key\n      d=value.x\n\x7d".toList]) ∧
      ((∀ halt, discover bad ≠ .error (.aborted halt)) ∧
        (checkBag path bad).Tells path bad (group bad).keys ∧
        (checkBag path bad).outcome = .ok 1 ∧
        (checkBag path bad).lines .debug = ["Resolving settings for topic.a.k.t".toList,
          "Resolving settings for topic.b.k.t".toList,
          "Resolving settings for topic.a.K.t".toList] ∧
        (checkBag path bad).lines .info = ["Resolved table config for topic a -> k.t".toList,
          "Resolved table config for topic a -> k.t".toList] ∧
        (checkBag path bad).lines .error = ["3 table setting(s) are invalid.".toList,
          "Missing required configuration ".toList
            ++ "\"topic.b.k.t.mapping\" which has no default value.".toList,
          "Invalid value 'x' for configuration topic.b.k.t.ttl: Not a number of type INT".toList,
          "Table k.t of topic a is already configured by topic.a.k.t.*".toList]) ∧
      (checkBag path ∅).Tells path ∅ (group ∅).keys ∧
        (checkBag path ∅).lines .warning = ["No table settings found in f".toList] := by
  let good : Bag := .ofList [("topic.a.k.t.mapping".toList, .text "c=key, d=value.x".toList)]
  let bad : Bag := .ofList [("topic.a.k.t.mapping".toList, .text "c=key".toList),
    ("topic.b.k.t.ttl".toList, .text "x".toList),
    ("topic.a.K.t.mapping".toList, .text "d=key".toList)]
  have hgood : ∀ halt, discover good ≠ .error (.aborted halt) :=
    not_exists.1 (mt (discover_accounted good).aborted_iff.1 (by decide +kernel))
  have hbad : ∀ halt, discover bad ≠ .error (.aborted halt) :=
    not_exists.1 (mt (discover_accounted bad).aborted_iff.1 (by decide +kernel))
  have hempty : ∀ halt, discover ∅ ≠ .error (.aborted halt) :=
    not_exists.1 (mt (discover_accounted ∅).aborted_iff.1 (by decide +kernel))
  refine ⟨⟨"INFO".toList, "sink-config".toList, false⟩, "f".toList, good, bad, ?_, ?_, ?_⟩
  · exact ⟨hgood, check_tells _ hgood, by decide +kernel, by decide +kernel⟩
  · exact ⟨hbad, check_tells _ hbad, by decide +kernel, by decide +kernel, by decide +kernel,
      by decide +kernel⟩
  · exact ⟨check_tells _ hempty, by decide +kernel⟩

end TopicTables
