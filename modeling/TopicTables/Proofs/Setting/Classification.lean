import TopicTables.Proofs.Setting.Parsing

/-! Settings accepted and refused.

A schema can be made of any definitions whose names are different, and keeps their order
(`ofList_isOk_iff`, `items_of_ofList`). Parsing puts every setting either among the values
or among the violations, each list in the order of the definitions, and what it says of a
setting follows from what the bag has under its name (`parse_classifies`). -/
namespace TopicTables

namespace Schema

/-! ### One definition after the other -/

theorem items_of_define {s t : Schema} {d : Definition} (h : s.define d = .ok t) :
    t.items = s.items ++ [d] := by
  rw [define] at h
  split at h
  · next hadd =>
    cases h
    exact Roster.items_of_add?_eq_some hadd
  · cases h

theorem define_isOk_iff (s : Schema) (d : Definition) :
    (s.define d).isOk = true ↔ d.name ∉ s.names := by
  have htaken : s.add? d = none ↔ d.name ∈ s.names := Roster.add?_eq_none_iff s d
  rw [define, ← htaken]
  cases s.add? d <;> simp [Except.isOk, Except.toBool]

theorem items_of_foldlM_define {s t : Schema} {ds : List Definition}
    (h : ds.foldlM define s = .ok t) : t.items = s.items ++ ds := by
  induction ds generalizing s with
  | nil =>
    cases h
    exact (List.append_nil _).symm
  | cons d ds ih =>
    rw [List.foldlM_cons] at h
    obtain ⟨middle, hfirst, hrest⟩ := bind_eq_ok h
    rw [ih hrest, items_of_define hfirst, List.append_assoc, List.singleton_append]

/-- Definitions are added up to the first whose name is taken. -/
theorem foldlM_define_isOk_iff (s : Schema) (ds : List Definition) :
    (ds.foldlM define s).isOk = true ↔ (s.names ++ ds.map Definition.name).Nodup := by
  -- The names taken so far stand in front, so that each step moves one of them over.
  induction ds generalizing s with
  | nil =>
    rw [List.map_nil, List.append_nil]
    exact iff_of_true rfl s.distinct
  | cons d ds ih =>
    have hfirst := define_isOk_iff s d
    rw [List.foldlM_cons, List.map_cons]
    cases hdefine : s.define d with
    | error name =>
      rw [hdefine] at hfirst
      have htaken : d.name ∈ s.names := by
        by_contra hfree
        cases hfirst.2 hfree
      refine iff_of_false (fun hok => by cases hok) fun hdistinct => ?_
      exact (List.nodup_append.1 hdistinct).2.2 _ htaken _ List.mem_cons_self rfl
    | ok middle =>
      have hnames : middle.names = s.names ++ [d.name] := by
        rw [names, names, Roster.keys, Roster.keys, items_of_define hdefine, List.map_append,
          List.map_singleton]
      have hrest := ih middle
      rw [hnames, List.append_assoc, List.singleton_append] at hrest
      exact hrest

/-! ### A list of definitions -/

/-- **A schema can be made of the definitions exactly if their names are different.** -/
theorem ofList_isOk_iff (ds : List Definition) :
    (ofList ds).isOk = true ↔ (ds.map Definition.name).Nodup :=
  foldlM_define_isOk_iff ∅ ds

theorem items_of_ofList {ds : List Definition} {s : Schema} (h : ofList ds = .ok s) :
    s.items = ds :=
  items_of_foldlM_define h

end Schema

/-! ### Two parts of a list -/

section Parts
variable {α β : Type} {l : List α} {f : α → β}

theorem disjoint_map_filter (h : (l.map f).Nodup) (q : α → Bool) :
    ((l.filter q).map f).Disjoint ((l.filter fun a => !q a).map f) := by
  intro b hb hb'
  obtain ⟨a, ha, rfl⟩ := List.mem_map.1 hb
  obtain ⟨a', ha', hsame⟩ := List.mem_map.1 hb'
  obtain ⟨hmem, hq⟩ := List.mem_filter.1 ha
  obtain ⟨hmem', hq'⟩ := List.mem_filter.1 ha'
  rw [List.inj_on_of_nodup_map h hmem' hmem hsame, hq] at hq'
  cases hq'

theorem mem_map_filter_or (q : α → Bool) {b : β} :
    b ∈ l.map f ↔ b ∈ (l.filter q).map f ∨ b ∈ (l.filter fun a => !q a).map f := by
  simp only [List.mem_map, List.mem_filter, ← exists_or, ← or_and_right, ← and_or_left]
  refine exists_congr fun a => ?_
  cases q a <;> simp

end Parts

/-! ### Values and violations -/

def Verdict.isAccepted : Verdict → Bool
  | .accepted _ => true
  | .refused _ => false

namespace Parsed
variable {p : Parsed}

theorem names_values (p : Parsed) :
    p.values.map Prod.fst = (p.verdicts.filter fun e => e.2.isAccepted).map Prod.fst := by
  rw [values]
  induction p.verdicts with
  | nil => rfl
  | cons e verdicts ih =>
    obtain ⟨name, verdict⟩ := e
    cases verdict with
    | accepted v => exact congrArg (name :: ·) ih
    | refused violation => exact ih

theorem paths_violations (hpath : ∀ name violation, (name, .refused violation) ∈ p.verdicts →
      violation.path = name) :
    p.violations.map Violation.path =
      (p.verdicts.filter fun e => !e.2.isAccepted).map Prod.fst := by
  rw [violations]
  generalize p.verdicts = verdicts at hpath
  induction verdicts with
  | nil => rfl
  | cons e verdicts ih =>
    obtain ⟨name, verdict⟩ := e
    have hrest := ih fun name violation hmem => hpath name violation (List.mem_cons_of_mem _ hmem)
    cases verdict with
    | accepted v => exact hrest
    | refused violation =>
      have hfirst : violation.path = name := hpath name violation List.mem_cons_self
      exact congrArg₂ List.cons hfirst hrest

/-- What parsing says of the settings of a schema, told by the definitions and the bag. -/
structure Classifies (p : Parsed) (ds : List Definition) (bag : Bag) : Prop where
  /-- The accepted settings stand in the order of the definitions. -/
  values_ordered : (p.values.map Prod.fst).Sublist (ds.map Definition.name)
  /-- The refused settings stand in the order of the definitions. -/
  violations_ordered : (p.violations.map Violation.path).Sublist (ds.map Definition.name)
  /-- No setting is both accepted and refused. -/
  disjoint : (p.values.map Prod.fst).Disjoint (p.violations.map Violation.path)
  /-- The defined settings, and no others, are accepted or refused. -/
  complete : ∀ name, name ∈ ds.map Definition.name ↔
    name ∈ p.values.map Prod.fst ∨ name ∈ p.violations.map Violation.path
  /-- A required setting that is not there is refused, and no value is shown. -/
  missing : ∀ d ∈ ds, bag.get? d.name = none → d.required = true →
    ⟨d.name, none, .missing d.name⟩ ∈ p.violations
  /-- Any other setting that is not there has its default as it is. -/
  defaulted : ∀ d ∈ ds, bag.get? d.name = none → ∀ v, d.default = some v →
    (d.name, v) ∈ p.values
  /-- A setting that is there has the value that is coerced and passes the checks, or is
  refused with its raw value, because it cannot be coerced or does not pass. -/
  judged : ∀ d ∈ ds, ∀ raw, bag.get? d.name = some raw →
    (∃ v, d.type.coerce raw = .ok v ∧ d.validate v = .ok () ∧ (d.name, v) ∈ p.values) ∨
    ∃ fault shown, (d.type.coerce raw = .error (.fault fault) ∨
        ∃ v, d.type.coerce raw = .ok v ∧ d.validate v = .error (.fault fault)) ∧
      raw.echo = .ok shown ∧ ⟨d.name, some shown, .fault fault⟩ ∈ p.violations

end Parsed

namespace Schema
variable {s : Schema} {bag : Bag} {p : Parsed}

/-- There is one verdict for each definition, in the same order. -/
theorem names_verdicts (h : s.parse bag = .ok p) :
    p.verdicts.map Prod.fst = s.items.map Definition.name := by
  refine map_eq_of_map_ok (verdicts_of_parse h) fun d e hentry => ?_
  obtain ⟨verdict, -, rfl⟩ := map_eq_ok hentry
  rfl

theorem paths_of_parse (h : s.parse bag = .ok p) :
    p.violations.map Violation.path =
      (p.verdicts.filter fun e => !e.2.isAccepted).map Prod.fst := by
  refine Parsed.paths_violations fun name violation hmem => ?_
  obtain ⟨d, -, rfl, hverdict⟩ := (mem_verdicts_iff h).1 hmem
  exact Definition.path_of_verdict hverdict

theorem classifies_of_parse (h : s.parse bag = .ok p) : p.Classifies s.items bag := by
  have hnames := names_verdicts h
  have hvalues := Parsed.names_values p
  have hpaths := paths_of_parse h
  have haccepted : ∀ {d v}, d ∈ s.items → d.verdict bag = .ok (.accepted v) →
      (d.name, v) ∈ p.values := fun hd hverdict =>
    (mem_values_iff p).2 ((mem_verdicts_iff h).2 ⟨_, hd, rfl, hverdict⟩)
  have hrefused : ∀ {d violation}, d ∈ s.items → d.verdict bag = .ok (.refused violation) →
      violation ∈ p.violations := fun hd hverdict =>
    (mem_violations_iff p).2 ⟨_, (mem_verdicts_iff h).2 ⟨_, hd, rfl, hverdict⟩⟩
  refine ⟨?_, ?_, ?_, fun name => ?_, fun d hd habsent hrequired => ?_,
    fun d hd habsent v hdefault => ?_, fun d hd raw hraw => ?_⟩
  · rw [hvalues, ← hnames]
    exact List.filter_sublist.map Prod.fst
  · rw [hpaths, ← hnames]
    exact List.filter_sublist.map Prod.fst
  · rw [hvalues, hpaths]
    exact disjoint_map_filter (hnames.symm ▸ s.distinct) _
  · rw [hvalues, hpaths, ← mem_map_filter_or, hnames]
  · have hdefault : d.default = none := Option.isNone_iff_eq_none.1 hrequired
    exact hrefused hd (Definition.verdict_eq_ok_iff.2 (.missing habsent hdefault))
  · exact haccepted hd (Definition.verdict_eq_ok_iff.2 (.default habsent hdefault))
  · obtain ⟨verdict, hverdict, -⟩ := exists_verdict h hd
    cases Definition.verdict_eq_ok_iff.1 hverdict with
    | missing habsent => rw [hraw] at habsent; cases habsent
    | default habsent => rw [hraw] at habsent; cases habsent
    | accepted hraw' hread =>
      obtain rfl := Option.some.inj (hraw.symm.trans hraw')
      obtain ⟨hcoerce, hvalid⟩ := Definition.read_eq_ok_iff.1 hread
      exact .inl ⟨_, hcoerce, hvalid, haccepted hd hverdict⟩
    | refused hraw' hread hshown =>
      obtain rfl := Option.some.inj (hraw.symm.trans hraw')
      exact .inr ⟨_, _, Definition.read_eq_error_iff.1 hread, hshown, hrefused hd hverdict⟩

/-- **Parsing classifies every setting once and looks at nothing else.** There is a schema of
the definitions unless two have one name, and then each of their settings is accepted or
refused by what the bag has under its name. -/
theorem parse_classifies (ds : List Definition) :
    ((∃ name, ofList ds = .error name) ↔ ¬ (ds.map Definition.name).Nodup) ∧
      ∀ s, ofList ds = .ok s → ∀ bag,
        (∀ p, s.parse bag = .ok p → p.Classifies ds bag) ∧
          ∀ bag', (∀ d ∈ ds, bag.get? d.name = bag'.get? d.name) → s.parse bag = s.parse bag' := by
  refine ⟨?_, fun s hs bag => ?_⟩
  · rw [← ofList_isOk_iff]
    cases ofList ds with
    | error name => exact iff_of_true ⟨name, rfl⟩ (by simp [Except.isOk, Except.toBool])
    | ok s => exact iff_of_false (by simp) (by simp [Except.isOk, Except.toBool])
  · have hitems := items_of_ofList hs
    refine ⟨fun p hp => ?_, fun bag' hsame => parse_congr ?_⟩
    · rw [← hitems]
      exact classifies_of_parse hp
    · rw [hitems]
      exact hsame

/-- Four settings: one read, one missing, one with its default, and one that does not pass a
check of its own; a bag with other keys between says the same of them. -/
theorem parse_classifies_four :
    ∃ (ds : List Definition) (s : Schema) (bag bag' : Bag) (p : Parsed),
      ofList ds = .ok s ∧ s.parse bag = .ok p ∧ p.Classifies ds bag ∧
        p.values.map Prod.fst = ["a".toList, "c".toList] ∧
        p.violations.map Violation.path = ["b".toList, "d".toList] ∧
        bag.keys ≠ bag'.keys ∧ s.parse bag' = .ok p := by
  let refuseThree (v : Value) : Except Refusal Unit :=
    if v.display = .ok ['3'] then .error (.fault (.stated "three".toList)) else .ok ()
  let ds : List Definition :=
    [⟨"a".toList, .int, some (.scalar (.int 7)), some 0, .high, [], fun _ => .ok ()⟩,
      ⟨"b".toList, .string, none, none, .low, [], fun _ => .ok ()⟩,
      ⟨"c".toList, .boolean, some (.scalar .none), none, .high, [], fun _ => .ok ()⟩,
      ⟨"d".toList, .int, none, none, .medium, [], refuseThree⟩]
  let bag : Bag := ⟨[("d".toList, .scalar (.int 3)), ("a".toList, .text " +5 ".toList)], by decide⟩
  let bag' : Bag := ⟨[("e".toList, .list []), ("a".toList, .text " +5 ".toList),
    ("d".toList, .scalar (.int 3))], by decide⟩
  let s : Schema := ⟨ds, by decide⟩
  have hs : ofList ds = .ok s := rfl
  have hsame : ∀ d ∈ ds, bag.get? d.name = bag'.get? d.name := by
    simp only [ds, List.forall_mem_cons]
    exact ⟨rfl, rfl, rfl, rfl, fun _ h => absurd h List.not_mem_nil⟩
  obtain ⟨hclassifies, hcongr⟩ := (parse_classifies ds).2 s hs bag
  obtain ⟨p, hp, hvalues, hviolations⟩ : ∃ p, s.parse bag = .ok p ∧
      p.values.map Prod.fst = ["a".toList, "c".toList] ∧
      p.violations.map Violation.path = ["b".toList, "d".toList] := ⟨_, rfl, rfl, rfl⟩
  exact ⟨ds, s, bag, bag', p, hs, hp, hclassifies p hp, hvalues, hviolations, by decide,
    (hcongr bag' hsame).symm.trans hp⟩

end Schema
end TopicTables
