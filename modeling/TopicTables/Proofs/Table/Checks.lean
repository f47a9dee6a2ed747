import TopicTables.Proofs.Table.Resolution

/-! The checks of a table.

A table has nine checks: its five settings, its two names, and the texts of its level and
its mapping. `Fails` tells of each check by itself when it fails and with which violation.
The checks that follow parsing are made only of what parsing accepted, and still nothing
is left out: the violations are those of all checks that fail, in their order
(`listed_of_parse`). -/
namespace TopicTables

/-- The checks of a table. -/
inductive TableCheck where
  | setting (s : TableSetting)
  | keyspace
  | table
  | level
  | mapping

/-- Every check, in the order in which problems are reported. -/
def TableCheck.checks : List TableCheck :=
  TableSetting.settings.map .setting ++ [.keyspace, .table, .level, .mapping]

/-- The setting that a check looks at. -/
def TableCheck.setting? : TableCheck → Option TableSetting
  | .setting s => some s
  | .keyspace | .table => none
  | .level => some .consistencyLevel
  | .mapping => some .mapping

/-- The text of a setting: what stands under its path, without white space at its ends, or
its default. -/
def Address.text? (a : Address) (bag : Bag) (s : TableSetting) : Option Text :=
  match bag.get? (a.path s) with
  | some raw => raw.text?.map strip
  | none => (s.definition a).default.bind Value.text?

/-- The check fails, with the violation that tells it. Each check looks at one value of the
bag or at one name, whatever the others find. -/
inductive Fails (a : Address) (bag : Bag) : TableCheck → Violation → Prop where
  /-- There is no mapping. -/
  | missing : bag.get? (a.path .mapping) = none →
      Fails a bag (.setting .mapping) ⟨a.path .mapping, none, .missing (a.path .mapping)⟩
  /-- The value of a setting cannot be coerced to its type. -/
  | coercion {s : TableSetting} {raw : Value} {fault : SettingFault} {shown : Text} :
      bag.get? (a.path s) = some raw → (s.definition a).type.coerce raw = .error (.fault fault) →
      raw.echo = .ok shown → Fails a bag (.setting s) ⟨a.path s, some shown, .fault fault⟩
  /-- The time to live is an integer, but one below the least. -/
  | below {raw : Value} {n : Int} {shown : Text} :
      bag.get? (a.path .ttl) = some raw → coerceInt raw = .ok (.scalar (.int n)) → n < noTtl →
      raw.echo = .ok shown →
      Fails a bag (.setting .ttl) ⟨a.path .ttl, some shown, .fault (.below noTtl)⟩
  | keyspace {e : IdentifierError} : Identifier.parse a.keyspace = .error e →
      Fails a bag .keyspace ⟨a.stem, some (echoed a.keyspace), .name e⟩
  | table {e : IdentifierError} : Identifier.parse a.table = .error e →
      Fails a bag .table ⟨a.stem, some (echoed a.table), .name e⟩
  /-- No level has the name, in whatever case. -/
  | level {t : Text} : a.text? bag .consistencyLevel = some t →
      (∀ level : ConsistencyLevel, level.name ≠ upper (strip t)) →
      Fails a bag .level ⟨a.path .consistencyLevel, some (echoed t), .noLevel⟩
  /-- The mapping is read with defects. -/
  | mapping {t : Text} {errors : List MappingError} : a.text? bag .mapping = some t →
      (Mapping.read (a.path .mapping) t).errors = errors → errors ≠ [] →
      Fails a bag .mapping ⟨a.path .mapping, some (echoed t), .mapping errors⟩

/-- The violations of the checks that fail, in the order of the checks. -/
inductive Listed (a : Address) (bag : Bag) : List TableCheck → List Violation → Prop where
  | nil : Listed a bag [] []
  | passed {check : TableCheck} {checks : List TableCheck} {violations : List Violation} :
      (∀ v, ¬ Fails a bag check v) → Listed a bag checks violations →
      Listed a bag (check :: checks) violations
  | failed {check : TableCheck} {checks : List TableCheck} {v : Violation}
      {violations : List Violation} : Fails a bag check v → Listed a bag checks violations →
      Listed a bag (check :: checks) (v :: violations)

/-! ### Checks that are made while parsing -/

section Parsing
variable {a : Address} {bag : Bag} {p : Parsed}

theorem Fails.refused {s : TableSetting} {v : Violation} (h : Fails a bag (.setting s) v) :
    (s.definition a).Says bag (.refused v) := by
  have hname := s.definition_name a
  cases h with
  | missing habsent => exact .missing habsent rfl
  | coercion hraw hcoerce hshown =>
    rw [← hname] at hraw ⊢
    exact .refused hraw (Definition.read_eq_error_iff.2 (.inl hcoerce)) hshown
  | @below raw n _ hraw hcoerce hbelow hshown =>
    have hvalid : (TableSetting.ttl.definition a).validate (.scalar (.int n)) =
        .error (.fault (.below noTtl)) := by
      rw [TableSetting.validate_ttl, Definition.checkAtLeast_int, if_pos hbelow]
    exact .refused hraw (Definition.read_eq_error_iff.2 (.inr ⟨_, hcoerce, hvalid⟩)) hshown

theorem fails_of_absent {s : TableSetting} (habsent : bag.get? (a.path s) = none)
    (hdefault : (s.definition a).default = none) :
    Fails a bag (.setting s) ⟨a.path s, none, .missing (a.path s)⟩ := by
  cases s with
  | mapping => exact .missing habsent
  | _ => cases hdefault

/-- A value that is coerced and does not pass is a time to live below the least. -/
theorem fails_of_validate {s : TableSetting} {raw v : Value} {fault : SettingFault} {shown : Text}
    (hraw : bag.get? (a.path s) = some raw) (hcoerce : (s.definition a).type.coerce raw = .ok v)
    (hvalid : (s.definition a).validate v = .error (.fault fault))
    (hshown : raw.echo = .ok shown) :
    Fails a bag (.setting s) ⟨a.path s, some shown, .fault fault⟩ := by
  by_cases hs : s = .ttl
  · subst hs
    obtain ⟨n, rfl, -⟩ := (SettingType.holds_of_coerce hcoerce).1
    rw [TableSetting.validate_ttl, Definition.checkAtLeast_int] at hvalid
    split at hvalid
    · next hbelow =>
      cases hvalid
      exact .below hraw hcoerce hbelow hshown
    · cases hvalid
  · rw [TableSetting.validate_of_ne_ttl hs] at hvalid
    cases hvalid

/-- **A setting fails its check exactly if its verdict is a violation.** -/
theorem fails_setting_iff {s : TableSetting} {v : Violation} :
    Fails a bag (.setting s) v ↔ (s.definition a).verdict bag = .ok (.refused v) := by
  have hname := s.definition_name a
  rw [Definition.verdict_eq_ok_iff]
  refine ⟨Fails.refused, fun h => ?_⟩
  cases h with
  | missing habsent hdefault =>
    rw [hname] at habsent ⊢
    exact fails_of_absent habsent hdefault
  | refused hraw hread hshown =>
    rw [hname] at hraw ⊢
    rcases Definition.read_eq_error_iff.1 hread with hcoerce | ⟨v, hcoerce, hvalid⟩
    · exact .coercion hraw hcoerce hshown
    · exact fails_of_validate hraw hcoerce hvalid hshown

/-- Parsing reports the settings that fail their checks. -/
theorem listed_verdicts {settings : List TableSetting} {verdicts : List (Text × Verdict)}
    (h : (settings.map (TableSetting.definition a)).map (Schema.entry bag) = verdicts.map .ok) :
    Listed a bag (settings.map .setting) (Parsed.mk verdicts).violations := by
  -- Settings and verdicts go together, so the induction takes one of each.
  induction settings generalizing verdicts with
  | nil =>
    cases verdicts with
    | nil => exact .nil
    | cons e verdicts => cases h
  | cons s settings ih =>
    cases verdicts with
    | nil => cases h
    | cons e verdicts =>
      rw [List.map_cons, List.map_cons, List.map_cons, List.cons_eq_cons] at h
      obtain ⟨hfirst, hrest⟩ := h
      obtain ⟨verdict, hverdict, rfl⟩ := map_eq_ok hfirst
      cases verdict with
      | accepted v =>
        show Listed a bag _ (Parsed.mk verdicts).violations
        refine .passed (fun violation hfails => ?_) (ih hrest)
        rw [fails_setting_iff, hverdict] at hfails
        cases hfails
      | refused violation => exact .failed (fails_setting_iff.2 hverdict) (ih hrest)

/-! ### Checks that follow -/

/-- The value of a STRING setting is any text, without the white space at its ends. -/
theorem read_eq_ok_iff_of_string {s : TableSetting} (hs : (s.definition a).type = .string)
    {raw v : Value} : (s.definition a).read raw = .ok v ↔
      ∃ t, raw.text? = some t ∧ v = .text (strip t) := by
  have hnumber : s ≠ .ttl := fun httl => by rw [httl] at hs; cases hs
  rw [← coerceString_eq_ok_iff, Definition.read_eq_ok_iff, hs,
    TableSetting.validate_of_ne_ttl hnumber]
  exact and_iff_left rfl

/-- The text of a STRING setting is the one that parsing accepts. -/
theorem text?_eq_some_iff {s : TableSetting} (hs : (s.definition a).type = .string) {t : Text} :
    a.text? bag s = some t ↔ (s.definition a).verdict bag = .ok (.accepted (.text t)) := by
  have hname := s.definition_name a
  rw [Definition.verdict_eq_ok_iff, Address.text?]
  constructor
  · intro h
    cases hraw : bag.get? (a.path s) with
    | none =>
      rw [hraw] at h
      obtain ⟨v, hv, ht⟩ := Option.bind_eq_some_iff.1 h
      rw [Value.text?_eq_some_iff.1 ht] at hv
      exact .default (hname ▸ hraw) hv
    | some raw =>
      rw [hraw] at h
      obtain ⟨t', ht', rfl⟩ := Option.map_eq_some_iff.1 h
      exact .accepted (hname ▸ hraw) ((read_eq_ok_iff_of_string hs).2 ⟨t', ht', rfl⟩)
  · intro h
    cases h with
    | default habsent hdefault =>
      rw [hname] at habsent
      rw [habsent]
      exact Option.bind_eq_some_iff.2 ⟨_, hdefault, rfl⟩
    | accepted hraw hvalue =>
      rw [hname] at hraw
      obtain ⟨t', ht', heq⟩ := (read_eq_ok_iff_of_string hs).1 hvalue
      cases heq
      rw [hraw]
      exact Option.map_eq_some_iff.2 ⟨t', ht', rfl⟩

/-- The checks after parsing are made of that text. -/
theorem text?_of_parse (h : (tableSchema a).parse bag = .ok p) {s : TableSetting}
    (hs : (s.definition a).type = .string) : p.text? (a.path s) = a.text? bag s := by
  ext t
  rw [Parsed.text?_eq_some_iff, text?_eq_some_iff hs,
    ← Schema.value?_eq_some_iff h (s.definition_mem a), s.definition_name a]

theorem checkName_eq_ok_iff {name : Text} {i : Identifier} :
    checkName a name = .ok i ↔ Identifier.parse name = .ok i := by
  rw [checkName]
  cases Identifier.parse name <;> simp

theorem checkName_eq_error_iff {name : Text} {v : Violation} :
    checkName a name = .error v ↔
      ∃ e, Identifier.parse name = .error e ∧ v = ⟨a.stem, some (echoed name), .name e⟩ := by
  rw [checkName]
  cases Identifier.parse name <;> simp [eq_comm]

theorem checkLevel_eq_ok_iff {t : Text} {level : ConsistencyLevel} :
    checkLevel a t = .ok level ↔ ConsistencyLevel.parse t = .ok level := by
  rw [checkLevel]
  cases ConsistencyLevel.parse t <;> simp

theorem checkLevel_eq_error_iff {t : Text} {v : Violation} :
    checkLevel a t = .error v ↔ (∀ level : ConsistencyLevel, level.name ≠ upper (strip t)) ∧
      v = ⟨a.path .consistencyLevel, some (echoed t), .noLevel⟩ := by
  have hnone : ConsistencyLevel.ofName? (upper (strip t)) = none ↔
      ∀ level : ConsistencyLevel, level.name ≠ upper (strip t) := by
    rw [ConsistencyLevel.ofName?, List.find?_eq_none]
    simp [ConsistencyLevel.mem_levels]
  rw [checkLevel, ConsistencyLevel.parse, ConsistencyLevel.lookupName, ← hnone]
  cases ConsistencyLevel.ofName? (upper (strip t)) <;> simp [eq_comm]

theorem checkMapping_eq_ok_iff {t : Text} {m : Mapping} :
    checkMapping a t = .ok m ↔ (Mapping.read (a.path .mapping) t).errors = [] ∧
      (Mapping.read (a.path .mapping) t).mapping = m := by
  rw [checkMapping, Mapping.Reading.ok]
  cases (Mapping.read (a.path .mapping) t).errors <;> simp

theorem checkMapping_eq_error_iff {t : Text} {v : Violation} :
    checkMapping a t = .error v ↔ (Mapping.read (a.path .mapping) t).errors ≠ [] ∧
      v = ⟨a.path .mapping, some (echoed t), .mapping (Mapping.read (a.path .mapping) t).errors⟩ := by
  rw [checkMapping, Mapping.Reading.ok]
  cases (Mapping.read (a.path .mapping) t).errors <;> simp [eq_comm]

theorem fails_keyspace_iff {v : Violation} :
    Fails a bag .keyspace v ↔ checkName a a.keyspace = .error v := by
  rw [checkName_eq_error_iff]
  constructor
  · intro h
    cases h with
    | keyspace he => exact ⟨_, he, rfl⟩
  · intro h
    obtain ⟨e, he, rfl⟩ := h
    exact .keyspace he

theorem fails_table_iff {v : Violation} :
    Fails a bag .table v ↔ checkName a a.table = .error v := by
  rw [checkName_eq_error_iff]
  constructor
  · intro h
    cases h with
    | table he => exact ⟨_, he, rfl⟩
  · intro h
    obtain ⟨e, he, rfl⟩ := h
    exact .table he

theorem fails_level_iff {v : Violation} : Fails a bag .level v ↔
    ∃ t, a.text? bag .consistencyLevel = some t ∧ checkLevel a t = .error v := by
  simp only [checkLevel_eq_error_iff]
  constructor
  · intro h
    cases h with
    | level ht hlevel => exact ⟨_, ht, hlevel, rfl⟩
  · intro h
    obtain ⟨t, ht, hlevel, rfl⟩ := h
    exact .level ht hlevel

theorem fails_mapping_iff {v : Violation} : Fails a bag .mapping v ↔
    ∃ t, a.text? bag .mapping = some t ∧ checkMapping a t = .error v := by
  simp only [checkMapping_eq_error_iff]
  constructor
  · intro h
    cases h with
    | mapping ht hread hne =>
      subst hread
      exact ⟨_, ht, hne, rfl⟩
  · intro h
    obtain ⟨t, ht, hne, rfl⟩ := h
    exact .mapping ht rfl hne

/-! ### All checks -/

/-- A check reports by itself. -/
theorem listed_found {α : Type} {check : TableCheck} {outcome : Except Violation α}
    (h : ∀ v, Fails a bag check v ↔ outcome = .error v) : Listed a bag [check] (found outcome) := by
  cases outcome with
  | ok _ => exact .passed (fun v hfails => by cases (h v).1 hfails) .nil
  | error v => exact .failed ((h v).2 rfl) .nil

/-- A check of a text that is not there reports nothing. -/
theorem listed_foundIfMade {α : Type} {check : TableCheck} {text : Option Text}
    {outcome : Text → Except Violation α}
    (h : ∀ v, Fails a bag check v ↔ ∃ t, text = some t ∧ outcome t = .error v) :
    Listed a bag [check] (foundIfMade (text.map outcome)) := by
  cases text with
  | none =>
    refine .passed (fun v hfails => ?_) .nil
    obtain ⟨t, ht, -⟩ := (h v).1 hfails
    cases ht
  | some t => exact listed_found fun v => (h v).trans (by simp)

theorem Listed.append {checks checks' : List TableCheck} {violations violations' : List Violation}
    (h : Listed a bag checks violations) (h' : Listed a bag checks' violations') :
    Listed a bag (checks ++ checks') (violations ++ violations') := by
  induction h with
  | nil => exact h'
  | passed hpassed _ ih => exact .passed hpassed ih
  | failed hfails _ ih => exact .failed hfails ih

/-- **No problem hides another.** The violations of a table are those of all checks that
fail, in their order. -/
theorem listed_of_parse (h : (tableSchema a).parse bag = .ok p) :
    Listed a bag TableCheck.checks (Checks.of a p).violations := by
  have hparsed : Listed a bag (TableSetting.settings.map .setting) p.violations :=
    listed_verdicts (Schema.verdicts_of_parse h)
  have hnames : Listed a bag ([.keyspace] ++ [.table])
      (found (checkName a a.keyspace) ++ found (checkName a a.table)) :=
    (listed_found fun _ => fails_keyspace_iff).append (listed_found fun _ => fails_table_iff)
  have htexts : Listed a bag ([.level] ++ [.mapping])
      (foundIfMade ((a.text? bag .consistencyLevel).map (checkLevel a)) ++
        foundIfMade ((a.text? bag .mapping).map (checkMapping a))) :=
    (listed_foundIfMade fun _ => fails_level_iff).append
      (listed_foundIfMade fun _ => fails_mapping_iff)
  -- The texts that are checked further are told by the bag alone, not by what was parsed.
  have hall := (hparsed.append hnames).append htexts
  rw [Checks.violations, Checks.of, text?_of_parse h rfl, text?_of_parse h rfl]
  simp only [List.append_assoc] at hall ⊢
  exact hall

end Parsing

end TopicTables
