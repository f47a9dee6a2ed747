import TopicTables.Proofs.Discovery.Outcome
import Mathlib.Data.Finset.Card

/-! Discovery and the order of settings.

Settings in another order give the same tables with the same resolutions, in another
order. Which of several spellings of a table is reported depends on it, but not how many
are: all but one for every key (`length_reports`). -/
namespace TopicTables

/-! ### Bags in another order -/

section Perm
variable {bag bag' : Bag}

theorem resolve_of_perm (h : bag.items.Perm bag'.items) :
    (resolve · bag) = (resolve · bag') := by
  funext a
  refine resolve_congr fun s => ?_
  rw [Bag.get?, Bag.get?, Roster.find?_of_perm h]

theorem keys_group_perm (h : bag.items.Perm bag'.items) :
    (group bag).keys.Perm (group bag').keys := by
  refine (List.perm_ext_iff_of_nodup (group bag).distinct (group bag').distinct).2 fun a => ?_
  have hmem := (gathered_group bag).mem_keys a
  simp only [h.mem_iff, ← (gathered_group bag').mem_keys a] at hmem
  exact hmem

theorem exceedsLimits_of_perm (h : bag.items.Perm bag'.items) (hexceeds : bag'.ExceedsLimits) :
    bag.ExceedsLimits := by
  obtain ⟨a, ha, hexceeded⟩ := hexceeds
  rw [← resolve_aborted_iff, ← congrFun (resolve_of_perm h) a, resolve_aborted_iff] at hexceeded
  exact ⟨a, (keys_group_perm h).mem_iff.2 ha, hexceeded⟩

end Perm

/-! ### Reports in another order -/

section Reports
variable (resolution : Address → Except Failure Config)

/-- The violations of a table that does not resolve. -/
def refusals (a : Address) : List Violation :=
  match resolution a with
  | .error (.rejected violations) => violations
  | _ => []

/-- The keys to which tables resolve. -/
def resolvedKeys (tables : List Address) : List TableKey :=
  (resolved resolution tables).map Config.key

end Reports

/-- The violation says that the table is configured already. -/
def Violation.isRepeated (v : Violation) : Bool :=
  match v.finding with
  | .repeated _ _ _ => true
  | _ => false

section Count
variable (resolution : Address → Except Failure Config)

theorem filter_report (earlier : List Address) (a : Address) :
    (report resolution earlier a).filter (!·.isRepeated) =
      (refusals resolution a).filter (!·.isRepeated) := by
  rw [report, refusals]
  cases resolution a with
  | ok c =>
    simp only
    split <;> rfl
  | error failure => cases failure <;> rfl

theorem filter_reports (earlier tables : List Address) :
    (reports resolution earlier tables).filter (!·.isRepeated) =
      (tables.flatMap (refusals resolution)).filter (!·.isRepeated) := by
  induction tables generalizing earlier with
  | nil => rfl
  | cons a tables ih =>
    rw [reports, List.filter_append, filter_report, ih, List.flatMap_cons, List.filter_append]

/-- One more table adds its violations if it does not resolve, and otherwise either a key
or a report. -/
theorem length_report (earlier : List Address) (a : Address) :
    (report resolution earlier a).length + (resolvedKeys resolution (earlier ++ [a])).toFinset.card =
      (refusals resolution a).length + (resolved resolution [a]).length +
        (resolvedKeys resolution earlier).toFinset.card := by
  rw [resolvedKeys, resolved_append, report, refusals]
  cases ha : resolution a with
  | error failure =>
    rw [resolved_of_error ha, List.append_nil]
    cases failure with
    | rejected violations => simp [resolvedKeys]
    | aborted halt => simp [resolvedKeys]
  | ok c =>
    rw [resolved_of_ok ha, List.map_append, List.map_singleton, List.toFinset_append]
    simp only
    cases hfirst : (resolved resolution earlier).find? fun first => first.key = c.key with
    | none =>
      have hnew : c.key ∉ ((resolved resolution earlier).map Config.key).toFinset := by
        simpa using hfirst
      have hinsert := Finset.card_insert_of_notMem hnew
      simp [resolvedKeys, hinsert]
      omega
    | some first =>
      have hold : c.key ∈ ((resolved resolution earlier).map Config.key).toFinset := by
        have hkey : first.key = c.key := by simpa using List.find?_some hfirst
        rw [List.mem_toFinset, ← hkey]
        exact List.mem_map_of_mem (List.mem_of_find?_eq_some hfirst)
      simp [resolvedKeys, hold]

theorem length_reports (earlier tables : List Address) :
    (reports resolution earlier tables).length +
        (resolvedKeys resolution (earlier ++ tables)).toFinset.card =
      (tables.flatMap (refusals resolution)).length + (resolved resolution tables).length +
        (resolvedKeys resolution earlier).toFinset.card := by
  induction tables generalizing earlier with
  | nil => simp [reports, resolved]
  | cons a tables ih =>
    have hfirst := length_report resolution earlier a
    have hrest := ih (earlier ++ [a])
    have hresolved : (resolved resolution (a :: tables)).length =
        (resolved resolution [a]).length + (resolved resolution tables).length := by
      rw [← List.length_append, ← resolved_append, List.singleton_append]
    rw [List.append_assoc, List.singleton_append] at hrest
    rw [reports, List.length_append, List.flatMap_cons, List.length_append, hresolved]
    omega

theorem length_reports_of_perm {tables tables' : List Address} (h : tables.Perm tables') :
    (reports resolution [] tables).length = (reports resolution [] tables').length := by
  have hlength := length_reports resolution [] tables
  have hlength' := length_reports resolution [] tables'
  have hresolved : (resolved resolution tables).Perm (resolved resolution tables') := h.filterMap _
  have hkeys : (resolvedKeys resolution tables).toFinset = (resolvedKeys resolution tables').toFinset :=
    List.toFinset_eq_of_perm _ _ (hresolved.map Config.key)
  have hrefusals := (h.flatMap_right (refusals resolution)).length_eq
  -- The reports differ table by table; only what they add up to with the keys is the same.
  rw [List.nil_append] at hlength hlength'
  rw [hkeys, hresolved.length_eq, hrefusals] at hlength
  omega

theorem filter_reports_of_perm {tables tables' : List Address} (h : tables.Perm tables') :
    ((reports resolution [] tables).filter (!·.isRepeated)).Perm
      ((reports resolution [] tables').filter (!·.isRepeated)) := by
  rw [filter_reports, filter_reports]
  exact (h.flatMap_right (refusals resolution)).filter _

variable {resolution}

theorem resolved_eq_of_map {tables : List Address} {configs : List Config}
    (h : tables.map resolution = configs.map .ok) : resolved resolution tables = configs := by
  have hresolved : resolved resolution tables =
      (tables.map resolution).filterMap Except.toOption := by
    rw [resolved, List.filterMap_map]
    rfl
  rw [hresolved, h, List.filterMap_map]
  exact List.filterMap_some

theorem map_ok_of_perm {tables tables' : List Address} (hperm : tables.Perm tables')
    {configs : List Config} (h : tables.map resolution = configs.map .ok) :
    tables'.map resolution = (resolved resolution tables').map .ok := by
  have hok : ∀ a ∈ tables', ∃ c, resolution a = .ok c := by
    intro a ha
    have hmem : resolution a ∈ configs.map .ok := by
      rw [← h]
      exact List.mem_map_of_mem (hperm.mem_iff.2 ha)
    obtain ⟨c, -, hc⟩ := List.mem_map.1 hmem
    exact ⟨c, hc.symm⟩
  clear hperm
  induction tables' with
  | nil => rfl
  | cons a tables' ih =>
    obtain ⟨c, hc⟩ := hok a List.mem_cons_self
    rw [← List.singleton_append, resolved_append, resolved_of_ok hc, List.singleton_append,
      List.map_cons, List.singleton_append, List.map_cons, hc,
      ih fun b hb => hok b (List.mem_cons_of_mem a hb)]

end Count

/-! ### Discovery -/

theorem discover_ok_of_perm {bag bag' : Bag} (h : ¬ bag.ExceedsLimits)
    (hperm : bag.items.Perm bag'.items) {configs : List Config}
    (hok : discover bag = .ok configs) :
    ∃ configs', discover bag' = .ok configs' ∧ configs.Perm configs' := by
  have htables := keys_group_perm hperm
  obtain ⟨hmap, hdistinct⟩ := (discover_eq_ok_iff h configs).1 hok
  have hmap' := map_ok_of_perm htables hmap
  have hconfigs : configs.Perm (resolved (resolve · bag) (group bag').keys) := by
    rw [← resolved_eq_of_map hmap]
    exact htables.filterMap _
  rw [resolve_of_perm hperm] at hmap' hconfigs
  have h' : ¬ bag'.ExceedsLimits := fun hexceeds => h (exceedsLimits_of_perm hperm hexceeds)
  refine ⟨_, (discover_eq_ok_iff h' _).2 ⟨hmap', ?_⟩, hconfigs⟩
  exact (hconfigs.map Config.key).nodup_iff.1 hdistinct

/-- **Discovery does not depend on the order of the settings**, but for the order of what it
returns and for which spelling of a table is called the second one. -/
theorem discover_perm {bag bag' : Bag} (h : ¬ bag.ExceedsLimits)
    (hperm : bag.items.Perm bag'.items) :
    (∃ configs configs', discover bag = .ok configs ∧ discover bag' = .ok configs' ∧
      configs.Perm configs') ∨
    ∃ violations violations', discover bag = .error (.rejected violations) ∧
      discover bag' = .error (.rejected violations') ∧ violations.length = violations'.length ∧
      (violations.filter (!·.isRepeated)).Perm (violations'.filter (!·.isRepeated)) := by
  have h' : ¬ bag'.ExceedsLimits := fun hexceeds => h (exceedsLimits_of_perm hperm hexceeds)
  by_cases hok : ∃ configs, discover bag = .ok configs
  · obtain ⟨configs, hok⟩ := hok
    obtain ⟨configs', hok', hconfigs⟩ := discover_ok_of_perm h hperm hok
    exact .inl ⟨configs, configs', hok, hok', hconfigs⟩
  · have hnone : ∀ configs, discover bag ≠ .ok configs := not_exists.1 hok
    have hnone' : ∀ configs, discover bag' ≠ .ok configs := by
      intro configs' hok'
      obtain ⟨configs, hok, -⟩ := discover_ok_of_perm h' hperm.symm hok'
      exact hnone configs hok
    have hrejected := discover_eq_rejected h hnone
    have hrejected' := discover_eq_rejected h' hnone'
    have htables := keys_group_perm hperm
    rw [← resolve_of_perm hperm] at hrejected'
    exact .inr ⟨_, _, hrejected, hrejected', length_reports_of_perm _ htables,
      filter_reports_of_perm _ htables⟩

/-- Two spellings of one table: the one that comes second is the one that is reported. -/
theorem discover_two_spellings :
    ∃ bag bag' : Bag, ¬ bag.ExceedsLimits ∧ bag.items.Perm bag'.items ∧ bag.keys ≠ bag'.keys ∧
      ∃ violations violations', discover bag = .error (.rejected violations) ∧
        discover bag' = .error (.rejected violations') ∧ violations.length = violations'.length ∧
        (violations.filter (!·.isRepeated)).Perm (violations'.filter (!·.isRepeated)) := by
  let bag : Bag := ⟨[("topic.a.k.t.mapping".toList, .text "c=value.x".toList),
    ("topic.a.K.t.mapping".toList, .text "c=value.x".toList),
    ("topic.b.k.t.ttl".toList, .scalar (.int 5))], by decide⟩
  let bag' : Bag := ⟨[("topic.a.K.t.mapping".toList, .text "c=value.x".toList),
    ("topic.a.k.t.mapping".toList, .text "c=value.x".toList),
    ("topic.b.k.t.ttl".toList, .scalar (.int 5))], by decide⟩
  have hwithin : ¬ bag.ExceedsLimits := by decide +kernel
  have hperm : bag.items.Perm bag'.items := .swap _ _ _
  rcases discover_perm hwithin hperm with ⟨configs, -, hok, -⟩ | hrejected
  · have hfailed : (discover bag).isOk = false := by decide +kernel
    rw [hok] at hfailed
    cases hfailed
  · exact ⟨bag, bag', hwithin, hperm, by decide, hrejected⟩

end TopicTables
