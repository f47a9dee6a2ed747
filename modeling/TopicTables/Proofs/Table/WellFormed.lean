import TopicTables.Proofs.Discovery.Outcome
import TopicTables.Proofs.Mapping.RoundTrip
import TopicTables.Proofs.Table.Checks
import Mathlib.Algebra.Group.Int.Defs

/-! What a configuration is made of.

A configuration is made only if every part of it was accepted (`config?_eq_some_iff`), so
each part has what its own check promises: a setting has the value that its definition
accepts (`has_of_resolve`), a name is an identifier, and a mapping was read without a
defect. Together they make every configuration well formed, whichever settings are there
and whichever have their defaults (`configs_wellFormed`). -/
namespace TopicTables

/-! ### The parts of a configuration -/

section Resolved
variable {a : Address} {bag : Bag} {c : Config}

/-- A table resolves to what its checks accepted. -/
theorem accept_of_resolve (h : resolve a bag = .ok c) :
    ∃ p, (tableSchema a).parse bag = .ok p ∧ (Checks.of a p).Accept a c := by
  rw [resolve] at h
  split at h
  · next p hp =>
    rw [Checks.outcome] at h
    split at h
    · next hconfig =>
      cases h
      exact ⟨p, hp, Checks.config?_eq_some_iff.1 hconfig⟩
    · cases h
  · cases h

/-! ### Its settings -/

/-- The configuration has the value for the setting. -/
inductive Config.Has (c : Config) : TableSetting → Value → Prop where
  | mapping : Has c .mapping (.text c.mappingText)
  | deletesEnabled : Has c .deletesEnabled (.scalar (.bool c.deletesEnabled))
  /-- A level is given by its name. -/
  | level {t : Text} : ConsistencyLevel.parse t = .ok c.level → Has c .consistencyLevel (.text t)
  | ttl : Has c .ttl (.scalar (.int c.ttl))
  | nullToUnset : Has c .nullToUnset (.scalar (.bool c.nullToUnset))

/-- Every setting has the value that its definition accepts under its path. -/
theorem has_of_resolve (h : resolve a bag = .ok c) (s : TableSetting) :
    ∃ v, (s.definition a).verdict bag = .ok (.accepted v) ∧ c.Has s v := by
  obtain ⟨p, hp, haccept⟩ := accept_of_resolve h
  simp only [← Schema.value?_eq_some_iff hp (s.definition_mem a), s.definition_name a]
  cases s with
  | mapping => exact ⟨_, Parsed.text?_eq_some_iff.1 haccept.mappingText, .mapping⟩
  | deletesEnabled => exact ⟨_, Parsed.bool?_eq_some_iff.1 haccept.deletesEnabled, .deletesEnabled⟩
  | consistencyLevel =>
    obtain ⟨t, ht, hlevel⟩ := Option.map_eq_some_iff.1 haccept.level
    exact ⟨_, Parsed.text?_eq_some_iff.1 ht, .level (checkLevel_eq_ok_iff.1 hlevel)⟩
  | ttl => exact ⟨_, Parsed.int?_eq_some_iff.1 haccept.ttl, .ttl⟩
  | nullToUnset => exact ⟨_, Parsed.bool?_eq_some_iff.1 haccept.nullToUnset, .nullToUnset⟩

/-- The time to live is one of 32 bits, and not below the one that stands for none. -/
theorem ttl_of_resolve (h : resolve a bag = .ok c) : noTtl ≤ c.ttl ∧ c.ttl ≤ maxInt := by
  obtain ⟨_, hverdict, hvalue⟩ := has_of_resolve h .ttl
  cases hvalue
  cases Definition.verdict_eq_ok_iff.1 hverdict with
  | default _ hdefault =>
    have hnone : noTtl = c.ttl := by simpa [TableSetting.definition] using hdefault
    rw [← hnone]
    decide
  | accepted _ hread =>
    obtain ⟨hcoerce, hvalid⟩ := Definition.read_eq_ok_iff.1 hread
    obtain ⟨⟨_, heq, -, hmax⟩, -⟩ := SettingType.holds_of_coerce hcoerce
    cases heq
    rw [TableSetting.validate_ttl, Definition.checkAtLeast_int] at hvalid
    split at hvalid
    · cases hvalid
    · next hleast => exact ⟨Int.not_lt.1 hleast, hmax⟩

/-- The text of the mapping is the one in the bag, without the white space around it. -/
theorem raw_of_resolve (h : resolve a bag = .ok c) :
    ∃ raw, bag.get? (a.path .mapping) = some (.text raw) ∧ c.mappingText = strip raw := by
  obtain ⟨_, hverdict, hvalue⟩ := has_of_resolve h .mapping
  cases hvalue
  cases Definition.verdict_eq_ok_iff.1 hverdict with
  | default _ hdefault => cases hdefault
  | accepted hraw hread =>
    obtain ⟨raw, htext, heq⟩ := (read_eq_ok_iff_of_string rfl).1 hread
    rw [Value.text?_eq_some_iff.1 htext] at hraw
    exact ⟨raw, hraw, by simpa using heq⟩

/-! ### Its names and its mapping -/

theorem names_of_resolve (h : resolve a bag = .ok c) :
    Identifier.parse a.keyspace = .ok c.keyspace ∧ Identifier.parse a.table = .ok c.table := by
  obtain ⟨p, -, haccept⟩ := accept_of_resolve h
  exact ⟨checkName_eq_ok_iff.1 haccept.keyspace, checkName_eq_ok_iff.1 haccept.table⟩

/-- The mapping is what its text is read as, without a defect. -/
theorem mapping_of_resolve (h : resolve a bag = .ok c) :
    (Mapping.read (a.path .mapping) c.mappingText).errors = [] ∧
      (Mapping.read (a.path .mapping) c.mappingText).mapping = c.mapping := by
  obtain ⟨p, -, haccept⟩ := accept_of_resolve h
  obtain ⟨t, ht, hmapping⟩ := Option.map_eq_some_iff.1 haccept.mapping
  obtain rfl : t = c.mappingText := Option.some.inj (ht.symm.trans haccept.mappingText)
  exact checkMapping_eq_ok_iff.1 hmapping

/-- The names are kept as they are written, and paths are built from them. -/
theorem address_of_resolve (h : resolve a bag = .ok c) :
    c.keyspaceName = a.keyspace ∧ c.tableName = a.table ∧ c.address = a := by
  obtain ⟨p, -, haccept⟩ := accept_of_resolve h
  obtain ⟨hkeyspace, htable⟩ := names_of_resolve h
  refine ⟨haccept.keyspaceName, haccept.tableName, ?_⟩
  rw [Config.address, haccept.keyspaceName, haccept.tableName, if_neg (Identifier.ne_nil_of_parse hkeyspace),
    if_neg (Identifier.ne_nil_of_parse htable), haccept.topic]

/-! ### Well-formed configurations -/

/-- The text is read without a defect as the entries, whatever the path of its setting. -/
def ReadsAs (t : Text) (es : List Entry) : Prop :=
  ∀ path, (Mapping.read path t).errors = [] ∧ (Mapping.read path t).mapping.items = es

/-- What every configuration of the table at an address keeps to. -/
structure Config.WellFormed (c : Config) (a : Address) (bag : Bag) : Prop where
  /-- The time to live is none or fits 32 bits. -/
  ttl : -1 ≤ c.ttl ∧ c.ttl ≤ 2 ^ 31 - 1
  keyspace : c.keyspace.internal ≠ []
  table : c.table.internal ≠ []
  /-- Some column is mapped, and none twice. -/
  mapped : c.mapping.items ≠ []
  columns : (c.mapping.items.map fun e => e.column.internal).Nodup
  /-- No column and no segment of a source is empty. -/
  entries : ∀ e ∈ c.mapping.items,
    e.column.internal ≠ [] ∧ e.source.segments ≠ [] ∧ ∀ t ∈ e.source.segments, t ≠ []
  /-- The text that is kept says what the mapping says. -/
  mappingText : ReadsAs c.mappingText c.mapping.items
  /-- So does the text in the bag, whatever white space stands around it. -/
  raw : ∃ raw, bag.get? (a.path .mapping) = some (.text raw) ∧ ReadsAs raw c.mapping.items
  /-- The names are kept as they are written, and none is left out. -/
  names : c.keyspaceName = a.keyspace ∧ c.keyspaceName ≠ [] ∧
    c.tableName = a.table ∧ c.tableName ≠ []
  /-- The path of a setting is the key under which its definition was looked up, with the
  value that the configuration has. -/
  paths : ∀ s, c.pathOf s.name = (s.definition a).name ∧
    ∃ v, (s.definition a).verdict bag = .ok (.accepted v) ∧ c.Has s v
  /-- Nothing else in the bag was looked at. -/
  alone : ∀ bag', (∀ s : TableSetting, bag'.get? (c.pathOf s.name) = bag.get? (c.pathOf s.name)) →
    resolve a bag' = .ok c

/-- White space around a text of a mapping does not matter. -/
theorem ReadsAs.padded {t u : Text} {es : List Entry} (h : ReadsAs t es) (hu : Padded t u) :
    ReadsAs u es := by
  obtain ⟨herrors, hitems⟩ := h []
  have hderives := Mapping.derives_of_read herrors
  rw [hitems] at hderives
  exact Mapping.read_of_derives (hderives.padded hu)

theorem readsAs_of_read {path t : Text} (h : (Mapping.read path t).errors = []) :
    ReadsAs t (Mapping.read path t).mapping.items :=
  Mapping.read_of_derives (Mapping.derives_of_read h)

theorem wellFormed_of_resolve (h : resolve a bag = .ok c) : c.WellFormed a bag := by
  obtain ⟨hkeyspace, htable⟩ := names_of_resolve h
  obtain ⟨hkeyspaceName, htableName, haddress⟩ := address_of_resolve h
  obtain ⟨raw, hraw, hstrip⟩ := raw_of_resolve h
  obtain ⟨herrors, hread⟩ := mapping_of_resolve h
  have hpath : ∀ s, c.pathOf s.name = a.path s := fun s => by
    rw [Config.pathOf, haddress, Address.path]
  have hreads : ReadsAs c.mappingText c.mapping.items := hread ▸ readsAs_of_read herrors
  have hentries : ∀ e ∈ c.mapping.items, e.Readable := hread ▸ Mapping.readable_of_mem_read
  exact {
    ttl := ttl_of_resolve h
    keyspace := (Identifier.parse_eq_ok_iff.1 hkeyspace).internal_ne_nil
    table := (Identifier.parse_eq_ok_iff.1 htable).internal_ne_nil
    mapped := hread ▸ (Mapping.derives_of_read herrors).ne_nil
    columns := c.mapping.distinct
    entries := fun e he => ⟨(hentries e he).column, (hentries e he).source.segments⟩
    mappingText := hreads
    raw := ⟨raw, hraw, hreads.padded (hstrip ▸ padded_strip raw)⟩
    names := by
      rw [hkeyspaceName, htableName]
      exact ⟨rfl, Identifier.ne_nil_of_parse hkeyspace, rfl, Identifier.ne_nil_of_parse htable⟩
    paths := fun s => ⟨(hpath s).trans (s.definition_name a).symm, has_of_resolve h s⟩
    alone := fun bag' hsame => by
      simp only [hpath] at hsame
      rw [resolve_congr hsame, h] }

/-! ### Every configuration -/

/-- **Every configuration is well formed**, whichever way it comes about. -/
theorem configs_wellFormed (bag : Bag) :
    (∀ a c, resolve a bag = .ok c → c.WellFormed a bag) ∧
      ∀ configs, discover bag = .ok configs →
        ∀ c ∈ configs, ∃ a ∈ (group bag).keys, c.WellFormed a bag := by
  refine ⟨fun a c => wellFormed_of_resolve, fun configs h c hc => ?_⟩
  obtain ⟨a, ha, hresolve⟩ := exists_resolve_of_discover h hc
  exact ⟨a, ha, wellFormed_of_resolve hresolve⟩

end Resolved

/-- A quoted keyspace, and white space around a mapping with a comma inside quotes. -/
theorem configs_wellFormed_padded :
    ∃ (bag : Bag) (a : Address) (c : Config), a ∈ (group bag).keys ∧ discover bag = .ok [c] ∧
      c.WellFormed a bag ∧ c.keyspace.internal = "K.S".toList ∧
      c.pathOf "ttl".toList = "topic.t.\"K.S\".T.ttl".toList ∧
      c.mappingText = "\"a,b\" = key ,c=value.d.e".toList ∧
      c.mapping.items.map Entry.render = ["\"a,b\"=key.__self".toList, "c=value.d.e".toList] ∧
      c.ttl = 5 := by
  let bag : Bag := .ofList [("topic.t.\"K.S\".T.ttl".toList, .text " +5\n".toList),
    ("topic.t.\"K.S\".T.mapping".toList, .text "\n \"a,b\" = key ,c=value.d.e\t".toList)]
  let texts (c : Config) : List Text :=
    [c.keyspace.internal, c.pathOf "ttl".toList, c.mappingText]
  have hfound : (discover bag).toOption.map
      (List.map fun c => (texts c, c.mapping.items.map Entry.render, c.ttl)) =
      some [(["K.S".toList, "topic.t.\"K.S\".T.ttl".toList, "\"a,b\" = key ,c=value.d.e".toList],
        ["\"a,b\"=key.__self".toList, "c=value.d.e".toList], 5)] := by decide +kernel
  obtain ⟨configs, hdiscover, hparts⟩ := exists_of_map_toOption hfound
  obtain ⟨c, rfl, hc⟩ := List.map_eq_singleton_iff.1 hparts
  simp only [texts, Prod.mk.injEq, List.cons.injEq, and_true] at hc
  obtain ⟨⟨hkeyspace, hpath, hmapping⟩, hentries, httl⟩ := hc
  obtain ⟨a, ha, hwell⟩ := (configs_wellFormed bag).2 [c] hdiscover c List.mem_cons_self
  exact ⟨bag, a, c, ha, hdiscover, hwell, hkeyspace, hpath, hmapping, hentries, httl⟩

end TopicTables
