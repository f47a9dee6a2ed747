import TopicTables.Proofs.Discovery.Coverage
import TopicTables.Proofs.Table.Report

/-! Which settings two tables share.

A path is the names of a table and of a setting with dots between them, and nothing is
escaped. What a table reads is what stands under its paths (`reads_iff_owns`), so two tables
read a key in common exactly if their paths start with the same text
(`tables_separated`). Where the names of a table are those of settings keys, the text tells
the table; but an identifier may hold dots of its own, and then one text can stand for two
tables (`dotted_names_collide`). -/
namespace TopicTables

namespace Address

/-- What a table resolves to can depend on what a bag has under the key. -/
def Reads (a : Address) (key : Text) : Prop :=
  ∃ bag bag' : Bag, (∀ other, other ≠ key → bag.get? other = bag'.get? other) ∧
    resolve a bag ≠ resolve a bag'

/-- The names of the table are those of settings keys. -/
structure Named (a : Address) : Prop where
  keyspace : IsName a.keyspace
  table : IsName a.table

/-- How far the settings of two tables are kept apart. -/
structure Separated (a b : Address) : Prop where
  /-- What is read of a table are the names of its schema. -/
  reads : ∀ key, (a.Reads key ↔ key ∈ (tableSchema a).names) ∧
    (b.Reads key ↔ key ∈ (tableSchema b).names)
  /-- The tables have a name in common exactly if their paths start with the same text. -/
  shared_iff : (∃ key, key ∈ (tableSchema a).names ∧ key ∈ (tableSchema b).names) ↔
    a.stem = b.stem
  /-- The same holds for a key that both of them read. -/
  read_iff : (∃ key, a.Reads key ∧ b.Reads key) ↔ a.stem = b.stem
  /-- Then they have all of their names in common. -/
  names_eq : a.stem = b.stem → (tableSchema a).names = (tableSchema b).names
  /-- Among tables that settings keys can be written for, this is one table only. -/
  eq_of_stem : a.Named → b.Named → a.stem = b.stem → a = b

/-! ### Paths -/

/-- A path tells its setting and the text in front of it. -/
theorem path_eq_path_iff {a b : Address} {s t : TableSetting} :
    a.path s = b.path t ↔ a.stem = b.stem ∧ s = t := by
  have hname : ∀ s : TableSetting, IsName s.name := fun s =>
    SettingKey.isName_of_readSetting? (SettingKey.readSetting?_eq_some_iff.2 (.inl rfl))
  constructor
  · intro h
    obtain ⟨hstem, hsetting⟩ := (hname s).cancel_right (hname t) h
    exact ⟨hstem, TableSetting.name_injective hsetting⟩
  · intro h
    rw [path, path, pathOf, pathOf, h.1, h.2]

theorem names_tableSchema (a : Address) :
    (tableSchema a).names = TableSetting.settings.map a.path := rfl

theorem exists_owns_iff {a b : Address} :
    (∃ key, a.Owns key ∧ b.Owns key) ↔ a.stem = b.stem := by
  constructor
  · intro h
    obtain ⟨key, ⟨s, rfl⟩, t, ht⟩ := h
    exact (path_eq_path_iff.1 ht).1
  · intro h
    exact ⟨a.path .ttl, ⟨.ttl, rfl⟩, .ttl, path_eq_path_iff.2 ⟨h, rfl⟩⟩

/-! ### What is read -/

theorem owns_of_reads {a : Address} {key : Text} (h : a.Reads key) : a.Owns key := by
  obtain ⟨bag, bag', hsame, hdiffer⟩ := h
  by_contra hforeign
  refine hdiffer (resolve_congr fun s => hsame _ fun hkey => hforeign ⟨s, hkey.symm⟩)

/-- A list is no value of any setting. -/
theorem fails_list (a : Address) (s : TableSetting) : ∃ fault shown,
    Fails a ((∅ : Bag).set (a.path s) (.list [])) (.setting s)
      ⟨a.path s, some shown, .fault fault⟩ := by
  have hraw : ((∅ : Bag).set (a.path s) (.list [])).get? (a.path s) = some (.list []) :=
    Bag.get?_eq_some_iff.2 (Roster.mem_put.2 (.inl rfl))
  obtain ⟨fault, hcoerce⟩ : ∃ fault, (s.definition a).type.coerce (.list []) =
      .error (.fault fault) := by
    cases s <;> exact ⟨_, rfl⟩
  exact ⟨fault, _, .coercion hraw hcoerce rfl⟩

/-- In an empty bag no value is refused. -/
theorem not_fails_empty {a : Address} {check : TableCheck} {v : Violation} {fault : SettingFault}
    (hfault : v.finding = .fault fault) : ¬ Fails a ∅ check v := by
  intro h
  cases h with
  | coercion hraw => cases hraw
  | below hraw => cases hraw
  | _ => cases hfault

/-- With a list under a path, the table is refused as it is with no other bag. -/
theorem reads_path (a : Address) (s : TableSetting) : a.Reads (a.path s) := by
  let bag : Bag := (∅ : Bag).set (a.path s) (.list [])
  refine ⟨bag, ∅, fun other hother => Bag.get?_set_of_ne hother.symm ∅ _, fun heq => ?_⟩
  have hempty : ¬ (tableSchema a).ExceededIn ∅ := by
    intro hexceeded
    obtain ⟨d, -, raw, hraw, -⟩ := hexceeded
    cases hraw
  have hbag : ¬ (tableSchema a).ExceededIn bag := by
    rw [← resolve_aborted_iff, heq, resolve_aborted_iff]
    exact hempty
  obtain ⟨fault, shown, hfails⟩ := fails_list a s
  have hreported := (reported_resolve hbag).listed.mem_iff.2 ⟨_, TableCheck.mem_checks _, hfails⟩
  rw [heq] at hreported
  obtain ⟨check, -, hfails⟩ := (reported_resolve hempty).listed.mem_iff.1 hreported
  exact not_fails_empty rfl hfails

/-- **A table reads exactly what stands under its paths.** -/
theorem reads_iff_owns {a : Address} {key : Text} : a.Reads key ↔ a.Owns key := by
  refine ⟨owns_of_reads, fun h => ?_⟩
  obtain ⟨s, rfl⟩ := h
  exact a.reads_path s

/-! ### Two tables -/

/-- **Two tables share all of their settings or none**, and they share them exactly if the
text in front of their settings is the same. -/
theorem tables_separated (a b : Address) : Separated a b := by
  have hpath : a.stem = b.stem → a.path = b.path := fun h =>
    funext fun s => path_eq_path_iff.2 ⟨h, rfl⟩
  refine ⟨fun key => ?_, ?_, ?_, fun h => ?_, fun ha hb h => ?_⟩
  · simp only [mem_names_iff, reads_iff_owns, iff_self, and_self]
  · simp only [mem_names_iff]
    exact exists_owns_iff
  · simp only [reads_iff_owns]
    exact exists_owns_iff
  · rw [names_tableSchema, names_tableSchema, hpath h]
  · exact stem_inj ha.keyspace ha.table hb.keyspace hb.table h

/-- Two tables that differ in which name the dots belong to. All names are identifiers, and
the one setting in the bag configures both tables. -/
theorem dotted_names_collide :
    ∃ (a b : Address) (bag : Bag) (key : Text), bag.keys = [key] ∧
      (∀ name ∈ [a.keyspace, a.table, b.keyspace, b.table], (Identifier.parse name).isOk = true) ∧
      (resolve a bag).toOption.map Config.key = some ⟨"t".toList, "a.b".toList, "c".toList⟩ ∧
      (resolve b bag).toOption.map Config.key = some ⟨"t.a".toList, "b".toList, "c".toList⟩ ∧
      key ∈ (tableSchema a).names ∧ key ∈ (tableSchema b).names ∧ a.Reads key ∧ b.Reads key := by
  let a : Address := ⟨"t".toList, "a.b".toList, "c".toList⟩
  let b : Address := ⟨"t.a".toList, "b".toList, "c".toList⟩
  let bag : Bag := .ofList [(a.path .mapping, .text "x=key".toList)]
  have howns : b.Owns (a.path .mapping) := ⟨.mapping, rfl⟩
  exact ⟨a, b, bag, a.path .mapping, rfl, by decide, by decide +kernel, by decide +kernel,
    mem_names_iff.2 ⟨.mapping, rfl⟩, mem_names_iff.2 howns, a.reads_path .mapping,
    reads_iff_owns.2 howns⟩

end Address
end TopicTables
