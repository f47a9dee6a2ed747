import TopicTables.Proofs.Discovery.Grouping
import TopicTables.Proofs.Identifier.Quotation

/-! Shown table names in settings keys.

A table is shown as its keyspace and its name with a dot between them, each without quotes
where they are not needed. A dot of a name stands inside quotes then, so the text can be cut
in one way only and tells the two names (`qualified_eq_iff`). It can also stand in a settings
key: the key belongs to one table, and the names of that table are read as the two that were
shown (`qualified_faithful`). -/
namespace TopicTables.Identifier

/-! ### Two shown names -/

theorem dot_not_mem_of_isPlain {t : Text} (h : isPlain t = true) : '.' ∉ t := fun hmem =>
  (isPlainChar_spec (forall_of_isPlain h '.' hmem)).2.2.2 (by decide)

/-- A shown name has no dot outside quotes, and its quotes pair up. -/
theorem piece_pretty (i : Identifier) :
    Quoted.isClosed i.pretty = true ∧ Quoted.NoneOutside '.' i.pretty := by
  rw [pretty]
  split
  · next hplain =>
    exact ⟨Quoted.isClosed_of_not_mem (quote_not_mem_of_isPlain hplain),
      Quoted.inside_of_not_mem (dot_not_mem_of_isPlain hplain)⟩
  · exact ⟨Quoted.isClosed_enclose_double _, Quoted.noneOutside_enclose_double (by decide) _⟩

/-- Cutting at the dots gives the two shown names back. -/
theorem splitOutside_qualified (keyspace table : Identifier) :
    Quoted.splitOutside '.' (qualified keyspace table) = [keyspace.pretty, table.pretty] := by
  obtain ⟨hkeyspace, hkeyspace'⟩ := piece_pretty keyspace
  obtain ⟨htable, htable'⟩ := piece_pretty table
  exact Quoted.splitOutside_pair (by decide) hkeyspace hkeyspace' htable htable'

/-- **No two pairs of names are shown alike**, also where a name is empty. -/
theorem qualified_eq_iff {keyspace table keyspace' table' : Identifier} :
    qualified keyspace table = qualified keyspace' table' ↔
      keyspace.internal = keyspace'.internal ∧ table.internal = table'.internal := by
  rw [← pretty_eq_iff, ← pretty_eq_iff]
  constructor
  · intro h
    have hpieces := congrArg (Quoted.splitOutside '.') h
    rw [splitOutside_qualified, splitOutside_qualified, List.cons_eq_cons, List.cons_eq_cons]
      at hpieces
    exact ⟨hpieces.1, hpieces.2.1⟩
  · intro h
    rw [qualified, qualified, h.1, h.2]

/-! ### Keys made of shown names -/

/-- A shown name can stand in a key as it is. -/
theorem isName_pretty {i : Identifier} (h : i.internal ≠ []) : IsName i.pretty := by
  rw [pretty]
  split
  · next hplain =>
    exact .plain h (dot_not_mem_of_isPlain hplain) (quote_not_mem_of_isPlain hplain)
  · exact .quoted h

/-- Where the settings of a table stand whose names are written as they are shown. -/
def shownAddress (topic : Text) (keyspace table : Identifier) : Address :=
  ⟨topic, keyspace.pretty, table.pretty⟩

/-- The key of a setting that is made of the shown name of a table. -/
def shownKey (topic : Text) (keyspace table : Identifier) (s : TableSetting) : Text :=
  "topic.".toList ++ topic ++ '.' :: qualified keyspace table ++ '.' :: s.name

theorem shownKey_eq_path (topic : Text) (keyspace table : Identifier) (s : TableSetting) :
    shownKey topic keyspace table s = (shownAddress topic keyspace table).path s := by
  unfold shownKey qualified Address.path
  rw [Address.pathOf_eq]
  simp only [shownAddress, List.append_assoc, List.cons_append]

theorem admissible_shownAddress {topic : Text} {keyspace table : Identifier} (hne : topic ≠ [])
    (htopic : ∀ c ∈ topic, SettingKey.isTopicChar c = true) (hkeyspace : keyspace.internal ≠ [])
    (htable : table.internal ≠ []) : (shownAddress topic keyspace table).Admissible :=
  ⟨hne, htopic, isName_pretty hkeyspace, isName_pretty htable⟩

/-- **A table is shown by a name that its settings can be found under.** A key made of a
topic, the shown name of a table and a setting belongs to one table only, whose two names are
read as the names that were shown; and different tables are shown differently. -/
theorem qualified_faithful :
    (∀ (topic : Text) (keyspace table : Identifier) (s : TableSetting) (value : Value),
      topic ≠ [] → (∀ c ∈ topic, SettingKey.isTopicChar c = true) →
      keyspace.internal ≠ [] → table.internal ≠ [] →
        ∃ k t, (group (Bag.set ∅ (shownKey topic keyspace table s) value)).keys = [⟨topic, k, t⟩] ∧
          (∃ i, parse k = .ok i ∧ i.internal = keyspace.internal) ∧
          ∃ j, parse t = .ok j ∧ j.internal = table.internal) ∧
      ∀ keyspace table keyspace' table' : Identifier,
        qualified keyspace table = qualified keyspace' table' ↔
          keyspace.internal = keyspace'.internal ∧ table.internal = table'.internal := by
  refine ⟨fun topic keyspace table s value hne htopic hkeyspace htable => ?_,
    fun _ _ _ _ => qualified_eq_iff⟩
  have hadmissible := admissible_shownAddress hne htopic hkeyspace htable
  have hreceives : (shownAddress topic keyspace table).receives
      (shownKey topic keyspace table s, value) = true :=
    Address.receives_path hadmissible ⟨s, shownKey_eq_path topic keyspace table s⟩
  obtain ⟨i, hi, hkeyspace'⟩ := spelling_pretty hkeyspace
  obtain ⟨j, hj, htable'⟩ := spelling_pretty htable
  refine ⟨keyspace.pretty, table.pretty, ?_, ⟨i, parse_eq_ok_iff.2 hi, hkeyspace'⟩,
    j, parse_eq_ok_iff.2 hj, htable'⟩
  rw [Roster.keys, group_of_receives hreceives]
  rfl

/-- A keyspace in capitals with a dot and a quote, and a table of two lines, below a topic
with a dot. -/
theorem qualified_faithful_dotted :
    ∃ k t, (group (Bag.set ∅ "topic.a.b.\"K.\"\"S\".\"t\n1\".ttl".toList (.text ['5']))).keys =
        [⟨"a.b".toList, k, t⟩] ∧
      (∃ i, parse k = .ok i ∧ i.internal = "K.\"S".toList) ∧
      ∃ j, parse t = .ok j ∧ j.internal = "t\n1".toList :=
  qualified_faithful.1 "a.b".toList (.quoted "K.\"S".toList) (.unquoted "T\n1".toList) .ttl
    (.text ['5']) (by decide) (List.all_eq_true.1 (by decide)) (by decide) (by decide)

end TopicTables.Identifier
