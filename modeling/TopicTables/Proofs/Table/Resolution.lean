import TopicTables.Table.Resolve
import TopicTables.Proofs.Setting.Parsing

/-! How the resolution of a table ends.

If no check finds a violation, every part of the configuration is there
(`Checks.exists_config`), so a table is refused with at least one violation or not at all.
Anything else that can happen is the limit on digits, and it happens exactly where a value
of the table exceeds it (`resolve_aborted_iff`). -/
namespace TopicTables

/-! ### The settings of a table -/

namespace TableSetting

theorem definition_mem (a : Address) (s : TableSetting) : s.definition a ∈ (tableSchema a).items :=
  List.mem_map_of_mem s.mem_settings

/-- Only the time to live is checked after it was coerced. -/
theorem validate_ttl (a : Address) (v : Value) :
    (ttl.definition a).validate v = checkAtLeast noTtl v := by
  show (checkAtLeast noTtl v >>= fun _ => .ok ()) = checkAtLeast noTtl v
  cases checkAtLeast noTtl v <;> rfl

theorem validate_of_ne_ttl {s : TableSetting} (hs : s ≠ .ttl) (a : Address) (v : Value) :
    (s.definition a).validate v = .ok () := by
  cases s with
  | ttl => exact absurd rfl hs
  | _ => rfl

theorem definition_ordered (a : Address) (s : TableSetting) : (s.definition a).Ordered := by
  intro v hv halt
  by_cases hs : s = .ttl
  · subst hs
    rw [validate_ttl]
    exact Definition.checkAtLeast_ne_halt (by simp [definition]) hv noTtl halt
  · rw [validate_of_ne_ttl hs]
    exact fun herror => by cases herror

theorem holds_default {a : Address} {s : TableSetting} {v : Value}
    (h : (s.definition a).default = some v) : (s.definition a).type.Holds v := by
  cases s with
  | mapping => cases h
  | deletesEnabled =>
    cases h
    exact ⟨true, rfl⟩
  | consistencyLevel =>
    cases h
    exact ⟨_, rfl⟩
  | ttl =>
    cases h
    exact ⟨noTtl, rfl, by decide, by decide⟩
  | nullToUnset =>
    cases h
    exact ⟨true, rfl⟩

end TableSetting

theorem tableSchema_ordered (a : Address) : (tableSchema a).Ordered := by
  intro d hd
  obtain ⟨s, -, rfl⟩ := List.mem_map.1 hd
  exact s.definition_ordered a

/-- The value of a setting, where no violation was found. -/
theorem holds_setting {a : Address} {bag : Bag} {p : Parsed}
    (h : (tableSchema a).parse bag = .ok p) (hclean : p.violations = []) (s : TableSetting) :
    ∃ v, p.value? (a.path s) = some v ∧ (s.definition a).type.Holds v := by
  rw [← s.definition_name a]
  exact Schema.holds_of_parse h hclean (s.definition_mem a) fun _ => TableSetting.holds_default

namespace Parsed
variable {p : Parsed} {name : Text}

theorem text?_eq_some_iff {t : Text} : p.text? name = some t ↔ p.value? name = some (.text t) := by
  unfold text?
  grind

theorem bool?_eq_some_iff {b : Bool} :
    p.bool? name = some b ↔ p.value? name = some (.scalar (.bool b)) := by
  unfold bool?
  grind

theorem int?_eq_some_iff {n : Int} :
    p.int? name = some n ↔ p.value? name = some (.scalar (.int n)) := by
  unfold int?
  grind

end Parsed

/-! ### The configuration -/

/-- Every part of the configuration was accepted by its check. -/
structure Checks.Accept (checks : Checks) (a : Address) (c : Config) : Prop where
  mappingText : checks.parsed.text? (a.path .mapping) = some c.mappingText
  ttl : checks.parsed.int? (a.path .ttl) = some c.ttl
  nullToUnset : checks.parsed.bool? (a.path .nullToUnset) = some c.nullToUnset
  deletesEnabled : checks.parsed.bool? (a.path .deletesEnabled) = some c.deletesEnabled
  keyspace : checks.keyspace = .ok c.keyspace
  table : checks.table = .ok c.table
  level : checks.level = some (.ok c.level)
  mapping : checks.mapping = some (.ok c.mapping)
  topic : c.topic = a.topic
  keyspaceName : c.keyspaceName = a.keyspace
  tableName : c.tableName = a.table

/-- A configuration is made of accepted parts and of nothing else. -/
theorem Checks.config?_eq_some_iff {checks : Checks} {a : Address} {c : Config} :
    checks.config? a = some c ↔ checks.Accept a c := by
  constructor
  · intro h
    simp only [config?, Option.bind_eq_bind, Option.bind_eq_some_iff] at h
    obtain ⟨_, hmappingText, _, httl, _, hnull, _, hdeletes, h⟩ := h
    split at h
    · next hkeyspace htable hlevel hmapping =>
      cases h
      exact ⟨hmappingText, httl, hnull, hdeletes, hkeyspace, htable, hlevel, hmapping, rfl, rfl, rfl⟩
    · cases h
  · intro h
    obtain ⟨topic, keyspace, table, mappingText, mapping, level, ttl, nullToUnset, deletesEnabled,
      keyspaceName, tableName⟩ := c
    obtain ⟨hmappingText, httl, hnull, hdeletes, hkeyspace, htable, hlevel, hmapping, rfl, rfl, rfl⟩ := h
    simp only [config?, hmappingText, httl, hnull, hdeletes, hkeyspace, htable, hlevel, hmapping,
      Option.bind_eq_bind, Option.bind_some]

theorem found_eq_nil {α : Type} {check : Except Violation α} (h : found check = []) :
    ∃ a, check = .ok a := by
  cases check with
  | ok a => exact ⟨a, rfl⟩
  | error violation => cases h

theorem foundIfMade_eq_nil {α : Type} {check : Except Violation α}
    (h : foundIfMade (some check) = []) : ∃ a, check = .ok a := found_eq_nil h

namespace Checks
variable {a : Address} {bag : Bag} {p : Parsed}

/-- Without a violation every part of the configuration was accepted. -/
theorem exists_config (h : (tableSchema a).parse bag = .ok p)
    (hclean : (Checks.of a p).violations = []) : ∃ c, (Checks.of a p).config? a = some c := by
  simp only [violations, List.append_eq_nil_iff] at hclean
  obtain ⟨⟨⟨⟨hparsed, hkeyspace⟩, htable⟩, hlevel⟩, hmapping⟩ := hclean
  have hvalue := holds_setting h hparsed
  obtain ⟨_, hmappingValue, mappingText, rfl⟩ := hvalue .mapping
  obtain ⟨_, hlevelValue, levelText, rfl⟩ := hvalue .consistencyLevel
  obtain ⟨_, httlValue, ttl, rfl, -⟩ := hvalue .ttl
  obtain ⟨_, hnullValue, nullToUnset, rfl⟩ := hvalue .nullToUnset
  obtain ⟨_, hdeletesValue, deletesEnabled, rfl⟩ := hvalue .deletesEnabled
  -- There is a text of the level and of the mapping, so all four checks were made.
  have hmappingText := Parsed.text?_eq_some_iff.2 hmappingValue
  have hlevelText := Parsed.text?_eq_some_iff.2 hlevelValue
  have httl := Parsed.int?_eq_some_iff.2 httlValue
  have hnull := Parsed.bool?_eq_some_iff.2 hnullValue
  have hdeletes := Parsed.bool?_eq_some_iff.2 hdeletesValue
  simp only [Checks.of, hlevelText, hmappingText, Option.map_some] at hkeyspace htable hlevel hmapping
  obtain ⟨keyspace, hkeyspace⟩ := found_eq_nil hkeyspace
  obtain ⟨table, htable⟩ := found_eq_nil htable
  obtain ⟨level, hlevel⟩ := foundIfMade_eq_nil hlevel
  obtain ⟨mapping, hmapping⟩ := foundIfMade_eq_nil hmapping
  exact ⟨⟨a.topic, keyspace, table, mappingText, mapping, level, ttl, nullToUnset, deletesEnabled,
    a.keyspace, a.table⟩, config?_eq_some_iff.2
    { mappingText := hmappingText, ttl := httl, nullToUnset := hnull, deletesEnabled := hdeletes
      keyspace := hkeyspace, table := htable
      level := by simp [Checks.of, hlevelText, hlevel]
      mapping := by simp [Checks.of, hmappingText, hmapping]
      topic := rfl, keyspaceName := rfl, tableName := rfl }⟩

theorem outcome_of_violations {c : Checks} (h : c.violations ≠ []) (a : Address) :
    c.outcome a = .error (.rejected c.violations) := by
  rw [outcome]
  split
  · next hnil _ => exact absurd hnil h
  · rfl

theorem outcome_ne_rejected_nil (h : (tableSchema a).parse bag = .ok p) :
    (Checks.of a p).outcome a ≠ .error (.rejected []) := by
  by_cases hclean : (Checks.of a p).violations = []
  · obtain ⟨c, hc⟩ := exists_config h hclean
    simp [outcome, hclean, hc]
  · simpa [outcome_of_violations hclean] using hclean

theorem outcome_ne_aborted (c : Checks) (a : Address) (halt : Halt) :
    c.outcome a ≠ .error (.aborted halt) := by
  rw [outcome]
  split <;> simp

end Checks

/-! ### How it ends -/

/-- Resolving looks at nothing but the paths of the table. -/
theorem resolve_congr {a : Address} {bag bag' : Bag}
    (h : ∀ s, bag.get? (a.path s) = bag'.get? (a.path s)) : resolve a bag = resolve a bag' := by
  have hparse : (tableSchema a).parse bag = (tableSchema a).parse bag' := by
    refine Schema.parse_congr fun d hd => ?_
    obtain ⟨s, -, rfl⟩ := List.mem_map.1 hd
    rw [TableSetting.definition_name]
    exact h s
  rw [resolve, resolve, hparse]

/-- A table is never refused without a violation. -/
theorem resolve_ne_rejected_nil (a : Address) (bag : Bag) :
    resolve a bag ≠ .error (.rejected []) := by
  rw [resolve]
  cases hparse : (tableSchema a).parse bag with
  | ok p => exact Checks.outcome_ne_rejected_nil hparse
  | error halt => simp

theorem resolve_eq_aborted_iff {a : Address} {bag : Bag} {halt : Halt} :
    resolve a bag = .error (.aborted halt) ↔ (tableSchema a).parse bag = .error halt := by
  rw [resolve]
  cases (tableSchema a).parse bag with
  | ok p => simp [Checks.outcome_ne_aborted]
  | error halt' => simp

/-- **The resolution of a table is cut short exactly by a value with too many digits.** -/
theorem resolve_aborted_iff (a : Address) (bag : Bag) :
    (∃ halt, resolve a bag = .error (.aborted halt)) ↔ (tableSchema a).ExceededIn bag := by
  have hok := Schema.parse_isOk_iff (tableSchema_ordered a) bag
  simp only [resolve_eq_aborted_iff]
  cases hparse : (tableSchema a).parse bag with
  | ok p =>
    rw [hparse] at hok
    simpa using hok.1 rfl
  | error halt =>
    have hexceeded : (tableSchema a).ExceededIn bag := by
      by_contra hnot
      rw [hparse] at hok
      cases hok.2 hnot
    simp [hexceeded]

theorem resolve_aborted_digits {a : Address} {bag : Bag} {halt : Halt}
    (h : resolve a bag = .error (.aborted halt)) : ∃ limit, halt = .digits limit :=
  Schema.parse_eq_error (tableSchema_ordered a) (resolve_eq_aborted_iff.1 h)

end TopicTables
