import TopicTables.Proofs.Discovery.Survey

/-! How discovery ends.

Discovery is cut short exactly where the settings of a table have too many digits to be
looked at (`failures_accounted`). Otherwise it is all or nothing: a configuration for every
table, or the reports on all of them (`discover_all_or_nothing`). -/
namespace TopicTables

/-! ### Runs that are cut short -/

theorem Survey.next_eq_error_iff {s : Survey} {d : Draft} {halt : Halt} :
    s.next d = .error halt ↔ d.build = .error (.aborted halt) := by
  rw [next]
  split
  · next c hc => simp [hc]
  · next violations hviolations => simp [hviolations]
  · next halt' hhalt => simp [hhalt]

/-- A draft is built as its table is resolved from the whole bag. -/
theorem Draft.build_of_mem {bag : Bag} {d : Draft} (hd : d ∈ (group bag).items) :
    d.build = resolve d.address bag := resolve_congr (get?_settings_path hd)

/-- The settings of some table of the bag have too many digits to be looked at. -/
def Bag.ExceedsLimits (bag : Bag) : Prop :=
  ∃ a ∈ (group bag).keys, (tableSchema a).ExceededIn bag

instance (bag : Bag) : Decidable bag.ExceedsLimits :=
  inferInstanceAs (Decidable (∃ a ∈ (group bag).keys, (tableSchema a).ExceededIn bag))

theorem surveyed_group {bag : Bag} {s : Survey} (h : survey (group bag).items = .ok s) :
    Surveyed (resolve · bag) (group bag).keys s := by
  have hbuild : ∀ d ∈ (group bag).items,
      d.build = resolve d.address bag ∧ d.build ≠ .error (.rejected []) := by
    intro d hd
    rw [Draft.build_of_mem hd]
    exact ⟨rfl, resolve_ne_rejected_nil d.address bag⟩
  exact Surveyed.empty.foldlM hbuild h

theorem exceedsLimits_of_survey {bag : Bag} {halt : Halt}
    (h : survey (group bag).items = .error halt) :
    bag.ExceedsLimits ∧ ∃ limit, halt = .digits limit := by
  obtain ⟨d, hd, s, hnext⟩ := exists_step_of_foldlM_error h
  have hbuild := Survey.next_eq_error_iff.1 hnext
  rw [Draft.build_of_mem hd] at hbuild
  have hexceeded := (resolve_aborted_iff d.address bag).1 ⟨halt, hbuild⟩
  exact ⟨⟨d.address, Roster.key_mem_keys hd, hexceeded⟩, resolve_aborted_digits hbuild⟩

theorem not_exceedsLimits_of_survey {bag : Bag} {s : Survey}
    (h : survey (group bag).items = .ok s) : ¬ bag.ExceedsLimits := by
  intro hexceeds
  obtain ⟨a, ha, hexceeded⟩ := hexceeds
  obtain ⟨d, hd, rfl⟩ := List.mem_map.1 ha
  obtain ⟨halt, haborted⟩ := (resolve_aborted_iff d.address bag).2 hexceeded
  rw [← Draft.build_of_mem hd] at haborted
  obtain ⟨before, after, hnext⟩ := exists_step_of_foldlM_ok h hd
  rw [Survey.next_eq_error_iff.2 haborted] at hnext
  cases hnext

/-! ### Every failure -/

/-- Every failure is accounted for: it carries violations, or it is the limit on digits,
and that only where it is exceeded. -/
structure Accounted {α : Type} (outcome : Except Failure α) (exceeded : Prop) : Prop where
  violations : outcome ≠ .error (.rejected [])
  digits : ∀ halt, outcome = .error (.aborted halt) → ∃ limit, halt = .digits limit
  aborted_iff : (∃ halt, outcome = .error (.aborted halt)) ↔ exceeded

theorem discover_of_survey {bag : Bag} {s : Survey} (h : survey (group bag).items = .ok s) :
    discover bag = if s.violations = [] then .ok s.configs.items
      else .error (.rejected s.violations) := by
  rw [discover, h]
  rfl

/-- A discovery that is not cut short has looked at every table. -/
theorem exists_survey_of_discover {bag : Bag} (h : ∀ halt, discover bag ≠ .error (.aborted halt)) :
    ∃ s, survey (group bag).items = .ok s := by
  cases hsurvey : survey (group bag).items with
  | ok s => exact ⟨s, rfl⟩
  | error halt =>
    refine absurd ?_ (h halt)
    rw [discover, hsurvey]

/-- What discovery is refused with are the reports on its tables. -/
theorem reports_of_discover {bag : Bag} {violations : List Violation}
    (h : discover bag = .error (.rejected violations)) :
    violations = reports (resolve · bag) [] (group bag).keys := by
  have hreached : ∀ halt, discover bag ≠ .error (.aborted halt) := fun halt => by simp [h]
  obtain ⟨s, hsurvey⟩ := exists_survey_of_discover hreached
  rw [discover_of_survey hsurvey] at h
  split at h
  · cases h
  · cases h
    exact (surveyed_group hsurvey).violations

theorem discover_accounted (bag : Bag) : Accounted (discover bag) bag.ExceedsLimits := by
  cases hsurvey : survey (group bag).items with
  | error halt =>
    obtain ⟨hexceeds, limit, rfl⟩ := exceedsLimits_of_survey hsurvey
    have hdiscover : discover bag = .error (.aborted (.digits limit)) := by
      rw [discover, hsurvey]
    rw [hdiscover]
    refine ⟨by simp, fun halt h => ?_, ⟨fun _ => hexceeds, fun _ => ⟨_, rfl⟩⟩⟩
    cases h
    exact ⟨limit, rfl⟩
  | ok s =>
    have hwithin := not_exceedsLimits_of_survey hsurvey
    rw [discover_of_survey hsurvey]
    split
    · exact ⟨by simp, by simp, by simpa using hwithin⟩
    · next hne => exact ⟨by simpa using hne, by simp, by simpa using hwithin⟩

/-- **Whatever the settings are, a failure carries violations**, unless a value of some
table has too many digits; then, and only then, the limit on digits is all that is told. -/
theorem failures_accounted (a : Address) (bag : Bag) :
    Accounted (resolve a bag) ((tableSchema a).ExceededIn bag) ∧
      Accounted (discover bag) bag.ExceedsLimits := by
  refine ⟨?_, discover_accounted bag⟩
  exact ⟨resolve_ne_rejected_nil a bag, fun _ => resolve_aborted_digits, resolve_aborted_iff a bag⟩

/-- A number of 4301 digits is not reported as a violation of its setting: it ends the
resolution of the table and the whole discovery. -/
theorem long_number_unreported :
    ∃ bag : Bag, bag.get? "topic.t.ks.tbl.ttl".toList = some (.text (List.replicate 4301 '1')) ∧
      (∃ halt, resolve ⟨"t".toList, "ks".toList, "tbl".toList⟩ bag = .error (.aborted halt)) ∧
      ∃ halt, discover bag = .error (.aborted halt) := by
  refine ⟨.ofList [("topic.t.ks.tbl.mapping".toList, .text "a=key".toList),
    ("topic.t.ks.tbl.ttl".toList, .text (List.replicate 4301 '1'))], rfl, ?_, ?_⟩
  · rw [resolve_aborted_iff]
    decide +kernel
  · rw [(discover_accounted _).aborted_iff]
    decide +kernel

/-! ### All or nothing -/

/-- Nothing is wrong with tables that resolve to configurations of different keys. -/
theorem reports_eq_nil {resolution : Address → Except Failure Config} {earlier tables : List Address}
    {configs : List Config} (htables : tables.map resolution = configs.map .ok)
    (hdistinct : ((resolved resolution earlier ++ configs).map Config.key).Nodup) :
    reports resolution earlier tables = [] := by
  -- The table in front joins the earlier ones, and its key stays among the distinct ones.
  induction tables generalizing earlier configs with
  | nil => rfl
  | cons a tables ih =>
    cases configs with
    | nil => cases htables
    | cons c configs =>
      rw [List.map_cons, List.map_cons, List.cons_eq_cons] at htables
      obtain ⟨hc, htables⟩ := htables
      have hfirst : (resolved resolution earlier).find? (fun first => first.key = c.key) = none := by
        rw [List.find?_eq_none]
        intro first hmem
        rw [List.map_append, List.nodup_append] at hdistinct
        simpa using hdistinct.2.2 first.key (List.mem_map_of_mem hmem) c.key (by simp)
      have hrest : reports resolution (earlier ++ [a]) tables = [] := by
        refine ih htables ?_
        rw [resolved_append, resolved_of_ok hc, List.append_assoc]
        exact hdistinct
      rw [reports, hrest, List.append_nil, report, hc]
      simp only [hfirst]

theorem exists_survey {bag : Bag} (h : ¬ bag.ExceedsLimits) :
    ∃ s, survey (group bag).items = .ok s := by
  cases hsurvey : survey (group bag).items with
  | ok s => exact ⟨s, rfl⟩
  | error halt => exact absurd (exceedsLimits_of_survey hsurvey).1 h

theorem discover_eq_ok_iff {bag : Bag} (h : ¬ bag.ExceedsLimits) (configs : List Config) :
    discover bag = .ok configs ↔
      (group bag).keys.map (resolve · bag) = configs.map .ok ∧ (configs.map Config.key).Nodup := by
  obtain ⟨s, hsurvey⟩ := exists_survey h
  have hsurveyed := surveyed_group hsurvey
  rw [discover_of_survey hsurvey]
  constructor
  · intro hok
    split at hok
    · next hclean =>
      cases hok
      exact ⟨hsurveyed.complete hclean, s.configs.distinct⟩
    · cases hok
  · intro hall
    obtain ⟨htables, hdistinct⟩ := hall
    have hclean : s.violations = [] := by
      rw [hsurveyed.violations]
      exact reports_eq_nil htables hdistinct
    have hinjective : Function.Injective (List.map (Except.ok : Config → Except Failure Config)) :=
      List.map_injective_iff.2 fun _ _ heq => Except.ok.inj heq
    rw [if_pos hclean, hinjective ((hsurveyed.complete hclean).symm.trans htables)]

/-- What discovery returns are the configurations of the tables, one for each. -/
theorem map_resolve_of_discover {bag : Bag} {configs : List Config} (h : discover bag = .ok configs) :
    (group bag).keys.map (resolve · bag) = configs.map .ok := by
  have hwithin : ¬ bag.ExceedsLimits := by
    rw [← (discover_accounted bag).aborted_iff, h]
    simp
  exact ((discover_eq_ok_iff hwithin configs).1 h).1

theorem exists_resolve_of_discover {bag : Bag} {c : Config} {configs : List Config}
    (h : discover bag = .ok configs) (hc : c ∈ configs) :
    ∃ a ∈ (group bag).keys, resolve a bag = .ok c := by
  have hmem : .ok c ∈ (group bag).keys.map (resolve · bag) := by
    rw [map_resolve_of_discover h]
    exact List.mem_map_of_mem hc
  exact List.mem_map.1 hmem

theorem discover_eq_rejected {bag : Bag} (h : ¬ bag.ExceedsLimits)
    (hnone : ∀ configs, discover bag ≠ .ok configs) :
    discover bag = .error (.rejected (reports (resolve · bag) [] (group bag).keys)) := by
  obtain ⟨s, hsurvey⟩ := exists_survey h
  rw [← (surveyed_group hsurvey).violations]
  rw [discover_of_survey hsurvey] at hnone ⊢
  split at hnone
  · exact absurd rfl (hnone s.configs.items)
  · next hne => rw [if_neg hne]

/-- **Discovery is all or nothing.** Within the limits it returns exactly when every table
resolves and no two of them to one key, and then it returns these configurations in order;
otherwise it reports what is wrong with each table. -/
theorem discover_all_or_nothing {bag : Bag} (h : ¬ bag.ExceedsLimits) :
    (∀ configs, discover bag = .ok configs ↔
      (group bag).keys.map (resolve · bag) = configs.map .ok ∧ (configs.map Config.key).Nodup) ∧
      ((∀ configs, discover bag ≠ .ok configs) →
        discover bag = .error (.rejected (reports (resolve · bag) [] (group bag).keys)) ∧
          reports (resolve · bag) [] (group bag).keys ≠ []) := by
  refine ⟨discover_eq_ok_iff h, fun hnone => ?_⟩
  have hrejected := discover_eq_rejected h hnone
  refine ⟨hrejected, fun hnil => ?_⟩
  rw [hnil] at hrejected
  exact (discover_accounted bag).violations hrejected

/-- Three spellings of one table, and a table without a mapping between them. -/
theorem discover_three_spellings :
    ∃ bag : Bag, ¬ bag.ExceedsLimits ∧ discover bag = .error (.rejected
      [⟨"topic.a.K.t".toList, none,
          .repeated "k.t".toList "a".toList "topic.a.k.t.*".toList⟩,
        ⟨"topic.b.k.t.mapping".toList, none, .missing "topic.b.k.t.mapping".toList⟩,
        ⟨"topic.a.\"k\".t".toList, none,
          .repeated "k.t".toList "a".toList "topic.a.k.t.*".toList⟩]) := by
  let bag : Bag := .ofList [("topic.a.k.t.mapping".toList, .text "c=value.x".toList),
    ("topic.a.K.t.mapping".toList, .text "c=value.x".toList),
    ("topic.b.k.t.ttl".toList, .scalar (.int 5)),
    ("topic.a.\"k\".t.mapping".toList, .text "c=value.x".toList)]
  have hwithin : ¬ bag.ExceedsLimits := by decide +kernel
  have hnone : ∀ configs, discover bag ≠ .ok configs := by
    intro configs hok
    have hfailed : (discover bag).isOk = false := by decide +kernel
    rw [hok] at hfailed
    cases hfailed
  obtain ⟨hrejected, -⟩ := (discover_all_or_nothing hwithin).2 hnone
  refine ⟨bag, hwithin, ?_⟩
  rw [hrejected, Except.error.injEq, Failure.rejected.injEq]
  decide +kernel

end TopicTables
