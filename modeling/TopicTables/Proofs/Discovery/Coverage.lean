import TopicTables.Proofs.Discovery.Outcome

/-! Which gathered settings are read.

A draft holds the settings whose keys are read for its table. Each is a path of the table,
and then its schema judges the value, or a path with a line break behind it, and then
nothing looks at the value (`gathered_read_or_broken`). -/
namespace TopicTables

theorem Address.mem_names_iff {a : Address} {key : Text} :
    key ∈ (tableSchema a).names ↔ a.Owns key := by
  rw [Schema.names, Roster.keys, List.mem_map]
  constructor
  · intro h
    obtain ⟨d, hd, rfl⟩ := h
    obtain ⟨s, -, rfl⟩ := List.mem_map.1 hd
    exact ⟨s, s.definition_name a⟩
  · intro h
    obtain ⟨s, rfl⟩ := h
    exact ⟨s.definition a, s.definition_mem a, s.definition_name a⟩

theorem Address.getLast?_path_ne_break (a : Address) (s : TableSetting) :
    (a.path s).getLast? ≠ some '\n' := by
  have hname : ('.' :: s.name).getLast? ≠ some '\n' := by
    cases s <;> decide
  rwa [path, pathOf, List.getLast?_append_of_ne_nil _ (List.cons_ne_nil _ _)]

/-- A gathered setting is read by the schema of its table unless its key ends in a line
break. -/
theorem mem_names_iff_of_gathered {bag : Bag} {d : Draft} (hd : d ∈ (group bag).items)
    {e : Text × Value} (he : e ∈ d.settings.items) :
    e.1 ∈ (tableSchema d.address).names ↔ e.1.getLast? ≠ some '\n' := by
  rw [Address.mem_names_iff]
  constructor
  · intro h
    obtain ⟨s, hs⟩ := h
    rw [hs]
    exact d.address.getLast?_path_ne_break s
  · intro hend
    have howner := Draft.owner?_of_mem hd (Roster.key_mem_keys he)
    exact Address.owns_of_receives hend (Address.receives_iff.2 howner)

/-- The schema judges the value that stands under one of its names. -/
theorem exists_verdict_of_mem_names {a : Address} {bag : Bag} {e : Text × Value}
    (he : e ∈ bag.items) (h : e.1 ∈ (tableSchema a).names) :
    ∃ definition ∈ (tableSchema a).items, definition.name = e.1 ∧
      definition.verdict bag = definition.judge e.2 := by
  obtain ⟨definition, hdefinition, hname⟩ := List.mem_map.1 h
  have hvalue : bag.get? definition.name = some e.2 := by
    rw [hname, Bag.get?_eq_some_iff]
    exact he
  refine ⟨definition, hdefinition, hname, ?_⟩
  rw [Definition.verdict_eq, hvalue]
  rfl

/-- A setting that the schema does not name may as well have any other value. -/
theorem Draft.build_set_of_not_mem_names {d : Draft} {key : Text}
    (h : key ∉ (tableSchema d.address).names) (v : Value) : (d.set key v).build = d.build := by
  refine resolve_congr fun s => ?_
  have hne : key ≠ d.address.path s := fun hkey => h (Address.mem_names_iff.2 ⟨s, hkey⟩)
  exact Bag.get?_set_of_ne hne d.settings v

/-- **A gathered setting is read, or its key ends in a line break and its value does not
matter.** -/
theorem gathered_read_or_broken (bag : Bag) :
    ∀ d ∈ (group bag).items, ∀ e ∈ d.settings.items,
      (e.1.getLast? ≠ some '\n' → e.1 ∈ (tableSchema d.address).names ∧
        ∃ definition ∈ (tableSchema d.address).items, definition.name = e.1 ∧
          definition.verdict d.settings = definition.judge e.2) ∧
      (e.1.getLast? = some '\n' → e.1 ∉ (tableSchema d.address).names ∧
        ∀ v, (d.set e.1 v).build = d.build) := by
  intro d hd e he
  have hnames := mem_names_iff_of_gathered hd he
  refine ⟨fun hend => ?_, fun hbreak => ?_⟩
  · have hmem := hnames.2 hend
    exact ⟨hmem, exists_verdict_of_mem_names he hmem⟩
  · have hnot : e.1 ∉ (tableSchema d.address).names := fun hmem => hnames.1 hmem hbreak
    exact ⟨hnot, Draft.build_set_of_not_mem_names hnot⟩

/-- A time to live under its path and one with a line break behind the path, both gathered
for the same table. -/
theorem gathered_beside_break :
    ∃ bag : Bag, ∃ d ∈ (group bag).items, ∃ e ∈ d.settings.items, ∃ e' ∈ d.settings.items,
      e.1 ∈ (tableSchema d.address).names ∧ e'.1 ∉ (tableSchema d.address).names ∧
        ∀ v, (d.set e'.1 v).build = d.build := by
  let bag : Bag := ⟨[("topic.a.k.t.ttl".toList, .scalar (.int 5)),
    ("topic.a.k.t.ttl\n".toList, .scalar (.int 7))], by decide⟩
  let d : Draft := ⟨⟨"a".toList, "k".toList, "t".toList⟩, bag⟩
  have hgroup : (group bag).items = [d] := rfl
  have hd : d ∈ (group bag).items := by
    rw [hgroup]
    exact List.mem_singleton_self d
  have he : ("topic.a.k.t.ttl".toList, .scalar (.int 5)) ∈ d.settings.items := List.mem_cons_self
  have he' : ("topic.a.k.t.ttl\n".toList, .scalar (.int 7)) ∈ d.settings.items :=
    List.mem_cons_of_mem _ List.mem_cons_self
  obtain ⟨hread, -⟩ := (gathered_read_or_broken bag d hd _ he).1 (by decide)
  obtain ⟨hunread, hignored⟩ := (gathered_read_or_broken bag d hd _ he').2 (by decide)
  exact ⟨bag, d, hd, _, he, _, he', hread, hunread, hignored⟩

/-- A time to live that is gathered for a table, and a configuration without it. -/
theorem gathered_ttl_unread :
    ∃ bag : Bag, ∃ d ∈ (group bag).items, "topic.a.k.t.ttl\n".toList ∈ d.settings.keys ∧
      "topic.a.k.t.ttl\n".toList ∉ (tableSchema d.address).names ∧
      d.build.toOption.map Config.ttl = some noTtl := by
  refine ⟨.ofList [("topic.a.k.t.mapping".toList, .text "c=value.x".toList),
    ("topic.a.k.t.ttl\n".toList, .scalar (.int 5))], ?_⟩
  decide +kernel

end TopicTables
