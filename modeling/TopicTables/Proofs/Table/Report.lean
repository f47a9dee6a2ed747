import TopicTables.Proofs.Table.Checks

/-! What is reported of a table.

Each check of a table reports under the path of its setting, or of the whole table, and a
text is checked further only where it was accepted. So each setting is reported once at
most, and as its own value demands (`resolve_reported`). -/
namespace TopicTables

/-! ### One report for each setting -/

section Paths
variable {a : Address} {bag bag' : Bag}

theorem Address.stem_ne_path (a : Address) (s : TableSetting) : a.stem ≠ a.path s := by
  intro h
  have hlength := congrArg List.length h
  rw [path, pathOf, List.length_append, List.length_cons] at hlength
  omega

/-- A check reports under the path of its setting, or of the whole table. -/
theorem Fails.path_eq {check : TableCheck} {v : Violation} (h : Fails a bag check v) :
    v.path = (check.setting?.map a.path).getD a.stem := by
  cases h <;> rfl

theorem Fails.path_eq_iff {check : TableCheck} {v : Violation} (h : Fails a bag check v)
    (s : TableSetting) : v.path = a.path s ↔ check.setting? = some s := by
  rw [h.path_eq]
  cases check.setting? with
  | none => simpa using a.stem_ne_path s
  | some s' =>
    rw [Option.map_some, Option.getD_some, Option.some_inj]
    exact ⟨a.path_injective, congrArg a.path⟩

theorem eq_of_text_checks {α : Type} {text : Option Text} {outcome : Text → Except Violation α}
    {v w : Violation} (hv : ∃ t, text = some t ∧ outcome t = .error v)
    (hw : ∃ t, text = some t ∧ outcome t = .error w) : v = w := by
  obtain ⟨t, ht, hv⟩ := hv
  obtain ⟨u, hu, hw⟩ := hw
  obtain rfl := Option.some.inj (ht.symm.trans hu)
  exact Except.error.inj (hv.symm.trans hw)

/-- A check fails in one way only. -/
theorem Fails.unique {check : TableCheck} {v w : Violation} (hv : Fails a bag check v)
    (hw : Fails a bag check w) : v = w := by
  cases check with
  | setting s =>
    rw [fails_setting_iff] at hv hw
    exact Verdict.refused.inj (Except.ok.inj (hv.symm.trans hw))
  | keyspace =>
    rw [fails_keyspace_iff] at hv hw
    exact Except.error.inj (hv.symm.trans hw)
  | table =>
    rw [fails_table_iff] at hv hw
    exact Except.error.inj (hv.symm.trans hw)
  | level => exact eq_of_text_checks (fails_level_iff.1 hv) (fails_level_iff.1 hw)
  | mapping => exact eq_of_text_checks (fails_mapping_iff.1 hv) (fails_mapping_iff.1 hw)

/-- A text is checked further only where it was accepted. -/
theorem Fails.not_text {s : TableSetting} (hs : (s.definition a).type = .string) {v : Violation}
    (h : Fails a bag (.setting s) v) {P : Text → Prop} : ¬ ∃ t, a.text? bag s = some t ∧ P t := by
  intro hsome
  obtain ⟨t, ht, -⟩ := hsome
  rw [text?_eq_some_iff hs, fails_setting_iff.1 h] at ht
  cases ht

/-- Only the checks of the two names report a malformed name. -/
theorem Fails.parse_eq_error {check : TableCheck} {v : Violation} (h : Fails a bag check v)
    {e : IdentifierError} (hname : v.finding = .name e) :
    Identifier.parse a.keyspace = .error e ∨ Identifier.parse a.table = .error e := by
  cases h with
  | keyspace he =>
    cases hname
    exact .inl he
  | table he =>
    cases hname
    exact .inr he
  | _ => cases hname

/-- Whether a check of a setting fails depends on the value of the setting alone. -/
theorem Fails.congr {s : TableSetting} (hsame : bag.get? (a.path s) = bag'.get? (a.path s))
    {check : TableCheck} (hs : check.setting? = some s) {v : Violation} :
    Fails a bag check v ↔ Fails a bag' check v := by
  have htext : a.text? bag s = a.text? bag' s := by
    rw [Address.text?, Address.text?, hsame]
  cases check with
  | setting s' =>
    obtain rfl := Option.some.inj hs
    rw [← s'.definition_name a] at hsame
    rw [fails_setting_iff, fails_setting_iff, Definition.verdict_congr hsame]
  | level =>
    obtain rfl := Option.some.inj hs
    rw [fails_level_iff, fails_level_iff, htext]
  | mapping =>
    obtain rfl := Option.some.inj hs
    rw [fails_mapping_iff, fails_mapping_iff, htext]
  | _ => cases hs

end Paths

namespace Listed
variable {a : Address} {bag bag' : Bag} {checks : List TableCheck}
  {violations violations' : List Violation}

/-- The violations are those of checks that fail, and of all of them. -/
theorem mem_iff (h : Listed a bag checks violations) {v : Violation} :
    v ∈ violations ↔ ∃ check ∈ checks, Fails a bag check v := by
  induction h with
  | nil => simp
  | passed hpassed _ ih => simp [ih, hpassed]
  | failed hfails _ ih =>
    rw [List.mem_cons, ih, List.exists_mem_cons_iff]
    refine or_congr_left ⟨fun heq => heq ▸ hfails, fun hfails' => hfails'.unique hfails⟩

theorem length_le (h : Listed a bag checks violations) : violations.length ≤ checks.length := by
  induction h with
  | nil => exact Nat.le_refl 0
  | passed _ _ ih => exact Nat.le_succ_of_le ih
  | failed _ _ ih => exact Nat.succ_le_succ ih

/-- Of two checks that exclude each other one reports at most. -/
theorem length_le_of_pair {first second : TableCheck} (h : Listed a bag [first, second] violations)
    (hexclude : ∀ v w, Fails a bag first v → ¬ Fails a bag second w) : violations.length ≤ 1 := by
  cases h with
  | passed _ hrest => exact hrest.length_le
  | failed hfirst hrest =>
    cases hrest with
    | passed _ hnil => exact Nat.succ_le_succ hnil.length_le
    | failed hsecond _ => exact absurd hsecond (hexclude _ _ hfirst)

/-- The violations at the path of a setting are those of its checks. -/
theorem filter_path (h : Listed a bag checks violations) (s : TableSetting) :
    Listed a bag (checks.filter fun check => check.setting? = some s)
      (violations.filter fun v => v.path = a.path s) := by
  induction h with
  | nil => exact .nil
  | @passed check _ _ hpassed _ ih =>
    by_cases hs : check.setting? = some s
    · rw [List.filter_cons_of_pos (by simpa using hs)]
      exact .passed hpassed ih
    · rwa [List.filter_cons_of_neg (by simpa using hs)]
  | @failed check _ v _ hfails _ ih =>
    have hpath := hfails.path_eq_iff s
    by_cases hs : check.setting? = some s
    · rw [List.filter_cons_of_pos (by simpa using hs),
        List.filter_cons_of_pos (by simpa using hpath.2 hs)]
      exact .failed hfails ih
    · rwa [List.filter_cons_of_neg (by simpa using hs),
        List.filter_cons_of_neg (by simpa using mt hpath.1 hs)]

/-- Checks that fail in the same way report the same. -/
theorem eq_of_fails_iff (h : Listed a bag checks violations)
    (h' : Listed a bag' checks violations')
    (hsame : ∀ check ∈ checks, ∀ v, Fails a bag check v ↔ Fails a bag' check v) :
    violations = violations' := by
  induction h generalizing violations' with
  | nil =>
    cases h'
    rfl
  | passed hpassed _ ih =>
    obtain ⟨hfirst, hrest⟩ := List.forall_mem_cons.1 hsame
    cases h' with
    | passed _ h' => exact ih h' hrest
    | failed hfails _ => exact absurd ((hfirst _).2 hfails) (hpassed _)
  | failed hfails _ ih =>
    obtain ⟨hfirst, hrest⟩ := List.forall_mem_cons.1 hsame
    cases h' with
    | passed hpassed _ => exact absurd ((hfirst _).1 hfails) (hpassed _)
    | failed hfails' h' => rw [((hfirst _).1 hfails).unique hfails', ih h' hrest]

end Listed

/-- A setting is reported once at most: what is checked of a text was accepted before. -/
theorem length_filter_path_le {a : Address} {bag : Bag} {violations : List Violation}
    (h : Listed a bag TableCheck.checks violations) (s : TableSetting) :
    (violations.filter fun v => v.path = a.path s).length ≤ 1 := by
  have hpath := h.filter_path s
  -- Only the mapping and the level have two checks, and the second needs an accepted text.
  cases s with
  | mapping =>
    have hpair : Listed a bag [.setting .mapping, .mapping] _ := hpath
    exact hpair.length_le_of_pair fun _ _ hrefused hfails =>
      hrefused.not_text rfl (fails_mapping_iff.1 hfails)
  | consistencyLevel =>
    have hpair : Listed a bag [.setting .consistencyLevel, .level] _ := hpath
    exact hpair.length_le_of_pair fun _ _ hrefused hfails =>
      hrefused.not_text rfl (fails_level_iff.1 hfails)
  | _ => exact hpath.length_le

/-! ### The report on a table -/

theorem TableCheck.mem_checks (check : TableCheck) : check ∈ TableCheck.checks := by
  cases check with
  | setting s => exact List.mem_append_left _ (List.mem_map_of_mem s.mem_settings)
  | _ => simp [TableCheck.checks]

/-- The violations that an outcome reports. -/
def reportedBy {α : Type} : Except Failure α → List Violation
  | .error (.rejected violations) => violations
  | .error (.aborted _) | .ok _ => []

theorem eq_rejected_of_reportedBy {α : Type} {outcome : Except Failure α} {v : Violation}
    {violations : List Violation} (h : reportedBy outcome = v :: violations) :
    outcome = .error (.rejected (v :: violations)) := by
  match outcome with
  | .error (.rejected _) => rw [← h, reportedBy]
  | .error (.aborted _) => cases h
  | .ok _ => cases h

/-- An outcome tells of a table what its checks find. -/
structure Reported (a : Address) (bag : Bag) (outcome : Except Failure Config) : Prop where
  /-- The table is refused exactly if a check fails. -/
  rejected_iff : (∃ violations, outcome = .error (.rejected violations)) ↔
    ∃ check v, Fails a bag check v
  /-- It has a configuration exactly if none does. -/
  resolved_iff : (∃ c, outcome = .ok c) ↔ ∀ check v, ¬ Fails a bag check v
  /-- The violations are those of all checks that fail, in the order of the checks. -/
  listed : Listed a bag TableCheck.checks (reportedBy outcome)
  /-- No setting is reported twice. -/
  once : ∀ s, ((reportedBy outcome).filter fun v => v.path = a.path s).length ≤ 1

section Outcome
variable {a : Address} {bag bag' : Bag}

theorem Listed.eq_nil_iff {violations : List Violation}
    (h : Listed a bag TableCheck.checks violations) :
    violations = [] ↔ ∀ check v, ¬ Fails a bag check v := by
  rw [List.eq_nil_iff_forall_not_mem]
  constructor
  · intro hnone check v hfails
    exact hnone v (h.mem_iff.2 ⟨check, check.mem_checks, hfails⟩)
  · intro hnone v hv
    obtain ⟨check, -, hfails⟩ := h.mem_iff.1 hv
    exact hnone check v hfails

/-- Within the limit on digits, a table has a configuration or is refused with what its
checks list. -/
theorem resolve_cases (h : ¬ (tableSchema a).ExceededIn bag) :
    ∃ violations, Listed a bag TableCheck.checks violations ∧
      ((violations = [] ∧ ∃ c, resolve a bag = .ok c) ∨
        (violations ≠ [] ∧ resolve a bag = .error (.rejected violations))) := by
  have hok := (Schema.parse_isOk_iff (tableSchema_ordered a) bag).2 h
  cases hparse : (tableSchema a).parse bag with
  | error halt =>
    rw [hparse] at hok
    cases hok
  | ok p =>
    have hresolve : resolve a bag = (Checks.of a p).outcome a := by
      rw [resolve, hparse]
    refine ⟨_, listed_of_parse hparse, ?_⟩
    rw [hresolve]
    by_cases hclean : (Checks.of a p).violations = []
    · obtain ⟨c, hc⟩ := Checks.exists_config hparse hclean
      exact .inl ⟨hclean, c, by simp [Checks.outcome, hclean, hc]⟩
    · exact .inr ⟨hclean, Checks.outcome_of_violations hclean a⟩

theorem reported_resolve (h : ¬ (tableSchema a).ExceededIn bag) :
    Reported a bag (resolve a bag) := by
  obtain ⟨violations, hlisted, hcases⟩ := resolve_cases h
  have hnone := hlisted.eq_nil_iff
  have hreported : reportedBy (resolve a bag) = violations := by
    rcases hcases with ⟨hnil, c, hresolve⟩ | ⟨-, hresolve⟩
    · rw [hresolve, hnil]
      rfl
    · rw [hresolve]
      rfl
  refine ⟨?_, ?_, hreported ▸ hlisted, hreported ▸ length_filter_path_le hlisted⟩
  · rcases hcases with ⟨hnil, c, hresolve⟩ | ⟨hne, hresolve⟩
    · rw [hresolve]
      refine iff_of_false (by simp) fun hsome => ?_
      obtain ⟨check, v, hfails⟩ := hsome
      exact hnone.1 hnil check v hfails
    · rw [hresolve]
      refine iff_of_true ⟨violations, rfl⟩ ?_
      by_contra hpassed
      exact hne (hnone.2 fun check v hfails => hpassed ⟨check, v, hfails⟩)
  · rcases hcases with ⟨hnil, c, hresolve⟩ | ⟨hne, hresolve⟩
    · rw [hresolve]
      exact iff_of_true ⟨c, rfl⟩ (hnone.1 hnil)
    · rw [hresolve]
      exact iff_of_false (by simp) (mt hnone.2 hne)

/-- What is reported of a setting depends on its own value. -/
theorem filter_path_congr {violations violations' : List Violation}
    (h : Listed a bag TableCheck.checks violations)
    (h' : Listed a bag' TableCheck.checks violations') {s : TableSetting}
    (hsame : bag.get? (a.path s) = bag'.get? (a.path s)) :
    (violations.filter fun v => v.path = a.path s) =
      violations'.filter fun v => v.path = a.path s := by
  refine (h.filter_path s).eq_of_fails_iff (h'.filter_path s) fun check hcheck v => ?_
  exact Fails.congr hsame (by simpa using (List.mem_filter.1 hcheck).2)

/-- **Every problem of a table is reported once, and none hides another.** The violations are
those of the checks that fail, each of which looks at one value or name alone, so whether
and how a setting is reported depends on nothing but its own value. -/
theorem resolve_reported (h : ¬ (tableSchema a).ExceededIn bag) :
    Reported a bag (resolve a bag) ∧
      ∀ bag', ¬ (tableSchema a).ExceededIn bag' →
        ∀ s, bag.get? (a.path s) = bag'.get? (a.path s) →
          ((reportedBy (resolve a bag)).filter fun v => v.path = a.path s) =
            (reportedBy (resolve a bag')).filter fun v => v.path = a.path s := by
  refine ⟨reported_resolve h, fun bag' h' s hsame => ?_⟩
  exact filter_path_congr (reported_resolve h).listed (reported_resolve h').listed hsame

end Outcome

/-- Four settings and a name go wrong at once, and each is reported in its own words; another
bag in which only the time to live is the same reports that one alike, and its mapping with all
defects of it. -/
theorem resolve_reported_five :
    ∃ (a : Address) (bag bag' : Bag), ¬ (tableSchema a).ExceededIn bag ∧
      Reported a bag (resolve a bag) ∧
      reportedBy (resolve a bag) =
        [⟨a.path .mapping, none, .missing (a.path .mapping)⟩,
          ⟨a.path .deletesEnabled, some "'yes'".toList, .fault .notBoolean⟩,
          ⟨a.path .ttl, some "'-2'".toList, .fault (.below noTtl)⟩,
          ⟨a.stem, some "'\"ks'".toList, .name (.unterminated "\"ks".toList)⟩,
          ⟨a.path .consistencyLevel, some "'bogus'".toList, .noLevel⟩] ∧
      (reportedBy (resolve a bag)).map Violation.render =
        ["Missing required configuration \"topic.t.\"ks.tbl.mapping\"".toList
            ++ " which has no default value.".toList,
          "Invalid value 'yes' for configuration topic.t.\"ks.tbl.deletesEnabled: ".toList
            ++ "Expected value to be either true or false".toList,
          "Invalid value '-2' for configuration topic.t.\"ks.tbl.ttl: ".toList
            ++ "Value must be at least -1".toList,
          "Invalid value '\"ks' for configuration topic.t.\"ks.tbl: ".toList
            ++ "Unterminated quoted identifier: '\"ks'".toList,
          "Invalid value 'bogus' for configuration topic.t.\"ks.tbl.consistencyLevel: ".toList
            ++ "valid values include: ANY, ONE, TWO, THREE, QUORUM, ALL, LOCAL_ONE, ".toList
            ++ "LOCAL_QUORUM, EACH_QUORUM, SERIAL, LOCAL_SERIAL".toList] ∧
      ¬ (tableSchema a).ExceededIn bag' ∧ (reportedBy (resolve a bag')).length = 3 ∧
      (reportedBy (resolve a bag')).getLast?.map Violation.render =
        some ("Invalid value 'c=key,c=value,' for configuration topic.t.\"ks.tbl.mapping: ".toList
          ++ "Encountered the following errors:\nMapping references column c more than ".toList
          ++ "once.\n  Empty mapping entry; remove the extra ','.".toList) ∧
      ((reportedBy (resolve a bag)).filter fun v => v.path = a.path .ttl) =
        (reportedBy (resolve a bag')).filter fun v => v.path = a.path .ttl := by
  let a : Address := ⟨"t".toList, "\"ks".toList, "tbl".toList⟩
  let bag : Bag := .ofList [(a.path .consistencyLevel, .text " bogus ".toList),
    (a.path .ttl, .scalar (.int (-2))), (a.path .deletesEnabled, .text "yes".toList)]
  let bag' : Bag := .ofList [(a.path .mapping, .text "c=key,c=value,".toList),
    (a.path .ttl, .scalar (.int (-2)))]
  have hwithin : ¬ (tableSchema a).ExceededIn bag := by decide +kernel
  have hwithin' : ¬ (tableSchema a).ExceededIn bag' := by decide +kernel
  obtain ⟨hreported, hcongr⟩ := resolve_reported hwithin
  exact ⟨a, bag, bag', hwithin, hreported, by decide +kernel, by decide +kernel, hwithin',
    by decide +kernel, by decide +kernel, hcongr bag' hwithin' .ttl rfl⟩

end TopicTables
