import TopicTables.Proofs.Roster
import TopicTables.Proofs.Setting.Verdict

/-! Parsing a bag through a schema.

Parsing gives the verdict on each setting under its name, in the order of the schema
(`Schema.verdicts_of_parse`): a value is accepted or a violation found exactly where a
definition says so. It ends early only for a value that has too many digits
(`Schema.parse_isOk_iff`). -/
namespace TopicTables

namespace Bag

theorem get?_eq_some_iff {bag : Bag} {key : Text} {v : Value} :
    bag.get? key = some v ↔ (key, v) ∈ bag.items := by
  rw [get?, Option.map_eq_some_iff]
  constructor
  · intro h
    obtain ⟨e, he, rfl⟩ := h
    obtain ⟨hmem, rfl⟩ := Roster.find?_eq_some_iff.1 he
    exact hmem
  · intro h
    exact ⟨(key, v), Roster.find?_eq_some_iff.2 ⟨h, rfl⟩, rfl⟩

theorem get?_set_of_ne {key other : Text} (h : key ≠ other) (bag : Bag) (v : Value) :
    (bag.set key v).get? other = bag.get? other := by
  have hne : (key, v).1 ≠ other := h
  rw [get?, set, Roster.find?_put_of_ne hne, get?]

end Bag

namespace Schema
variable {s : Schema} {bag : Bag} {p : Parsed}

/-- No check of a setting ends a run. -/
def Ordered (s : Schema) : Prop := ∀ d ∈ s.items, d.Ordered

/-- The bag has a value of some setting that has too many digits to be looked at. -/
def ExceededIn (s : Schema) (bag : Bag) : Prop := ∃ d ∈ s.items, d.ExceededIn bag

instance (s : Schema) (bag : Bag) : Decidable (s.ExceededIn bag) :=
  inferInstanceAs (Decidable (∃ d ∈ s.items, d.ExceededIn bag))

/-- The verdict on a definition, under its name. -/
def entry (bag : Bag) (d : Definition) : Except Halt (Text × Verdict) :=
  (d.verdict bag).map fun verdict => (d.name, verdict)

theorem parse_eq (s : Schema) (bag : Bag) :
    s.parse bag = (s.items.mapM (entry bag)).map Parsed.mk := by
  have hentry : entry bag = fun d => do return (d.name, ← d.verdict bag) := by
    funext d
    rw [entry]
    cases d.verdict bag <;> rfl
  rw [parse, hentry]
  cases s.items.mapM (fun d => do return (d.name, ← d.verdict bag)) <;> rfl

theorem parse_isOk_iff (hs : s.Ordered) (bag : Bag) :
    (s.parse bag).isOk = true ↔ ¬ s.ExceededIn bag := by
  rw [parse_eq, isOk_map, isOk_mapM, List.all_eq_true]
  simp only [entry, isOk_map, ExceededIn, not_exists, not_and]
  constructor
  · intro h d hd
    exact (Definition.verdict_isOk_iff (hs d hd) bag).1 (h d hd)
  · intro h d hd
    exact (Definition.verdict_isOk_iff (hs d hd) bag).2 (h d hd)

theorem parse_eq_error (hs : s.Ordered) {halt : Halt} (h : s.parse bag = .error halt) :
    ∃ limit, halt = .digits limit := by
  rw [parse_eq] at h
  obtain ⟨d, hd, hentry⟩ := exists_of_mapM_error (map_eq_error h)
  exact Definition.verdict_eq_error (hs d hd) (map_eq_error hentry)

/-- Parsing looks at nothing but the names of the definitions. -/
theorem parse_congr {bag' : Bag} (h : ∀ d ∈ s.items, bag.get? d.name = bag'.get? d.name) :
    s.parse bag = s.parse bag' := by
  have hentry : ∀ d ∈ s.items, entry bag d = entry bag' d := by
    intro d hd
    rw [entry, entry, Definition.verdict_congr (h d hd)]
  rw [parse_eq, parse_eq, mapM_congr hentry]

/-- **Parsing gives each setting its own verdict**, under its name and in order. -/
theorem verdicts_of_parse (h : s.parse bag = .ok p) :
    s.items.map (entry bag) = p.verdicts.map .ok := by
  rw [parse_eq] at h
  obtain ⟨entries, hentries, rfl⟩ := map_eq_ok h
  exact map_of_mapM_ok hentries

theorem mem_verdicts_iff (h : s.parse bag = .ok p) {name : Text} {verdict : Verdict} :
    (name, verdict) ∈ p.verdicts ↔ ∃ d ∈ s.items, d.name = name ∧ d.verdict bag = .ok verdict := by
  have hmem : (name, verdict) ∈ p.verdicts ↔ .ok (name, verdict) ∈ s.items.map (entry bag) := by
    rw [verdicts_of_parse h]
    simp
  rw [hmem, List.mem_map]
  refine exists_congr fun d => and_congr_right fun _ => ?_
  rw [entry]
  cases d.verdict bag <;> simp [Except.map]

theorem exists_verdict (h : s.parse bag = .ok p) {d : Definition} (hd : d ∈ s.items) :
    ∃ verdict, d.verdict bag = .ok verdict ∧ (d.name, verdict) ∈ p.verdicts := by
  have hentry : entry bag d ∈ p.verdicts.map .ok := by
    rw [← verdicts_of_parse h]
    exact List.mem_map_of_mem hd
  obtain ⟨e, he, hok⟩ := List.mem_map.1 hentry
  obtain ⟨verdict, hverdict, rfl⟩ := map_eq_ok hok.symm
  exact ⟨verdict, hverdict, he⟩

theorem mem_values_iff (p : Parsed) {name : Text} {v : Value} :
    (name, v) ∈ p.values ↔ (name, .accepted v) ∈ p.verdicts := by
  rw [Parsed.values, List.mem_filterMap]
  constructor
  · intro h
    obtain ⟨⟨name', verdict⟩, hmem, heq⟩ := h
    cases verdict with
    | accepted w =>
      cases heq
      exact hmem
    | refused violation => cases heq
  · intro h
    exact ⟨_, h, rfl⟩

theorem mem_violations_iff (p : Parsed) {violation : Violation} :
    violation ∈ p.violations ↔ ∃ name, (name, .refused violation) ∈ p.verdicts := by
  rw [Parsed.violations, List.mem_filterMap]
  constructor
  · intro h
    obtain ⟨⟨name, verdict⟩, hmem, heq⟩ := h
    cases verdict with
    | accepted w => cases heq
    | refused violation' =>
      cases heq
      exact ⟨name, hmem⟩
  · intro h
    obtain ⟨name, hmem⟩ := h
    exact ⟨_, hmem, rfl⟩

/-- The value of a setting is the one that its definition accepts. -/
theorem value?_eq_some_iff (h : s.parse bag = .ok p) {d : Definition} (hd : d ∈ s.items)
    {v : Value} : p.value? d.name = some v ↔ d.verdict bag = .ok (.accepted v) := by
  have hfound : ∀ e ∈ p.values, e.1 = d.name → d.verdict bag = .ok (.accepted e.2) := by
    intro e he hname
    obtain ⟨d', hd', hname', hverdict⟩ := (mem_verdicts_iff h).1 ((mem_values_iff p).1 he)
    rwa [Roster.eq_of_key_eq hd' hd (hname'.trans hname)] at hverdict
  rw [Parsed.value?, Option.map_eq_some_iff]
  constructor
  · intro hfind
    obtain ⟨e, he, rfl⟩ := hfind
    exact hfound e (List.mem_of_find?_eq_some he) (by simpa using List.find?_some he)
  · intro hverdict
    have hmem : (d.name, v) ∈ p.values :=
      (mem_values_iff p).2 ((mem_verdicts_iff h).2 ⟨d, hd, rfl, hverdict⟩)
    cases hfind : p.values.find? fun e => e.1 = d.name with
    | none => exact absurd (List.find?_eq_none.1 hfind _ hmem) (by simp)
    | some e =>
      have he := hfound e (List.mem_of_find?_eq_some hfind) (by simpa using List.find?_some hfind)
      rw [hverdict] at he
      cases he
      exact ⟨e, rfl, rfl⟩

/-- Where no violation was found, every setting has a value of its type. -/
theorem holds_of_parse (h : s.parse bag = .ok p) (hclean : p.violations = [])
    {d : Definition} (hd : d ∈ s.items) (hdefault : ∀ v, d.default = some v → d.type.Holds v) :
    ∃ v, p.value? d.name = some v ∧ d.type.Holds v := by
  obtain ⟨verdict, hverdict, hmem⟩ := exists_verdict h hd
  cases verdict with
  | accepted v =>
    exact ⟨v, (value?_eq_some_iff h hd).2 hverdict, Definition.holds_of_verdict hdefault hverdict⟩
  | refused violation =>
    have hfound : violation ∈ p.violations :=
      (mem_violations_iff p).2 ⟨d.name, hmem⟩
    rw [hclean] at hfound
    cases hfound

end Schema
end TopicTables
