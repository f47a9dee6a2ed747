import TopicTables.Proofs.Discovery.Grouping
import TopicTables.Proofs.Table.Resolution

/-! Tables are isolated from each other.

Resolving looks at nothing in a bag but the five paths of the table, and a draft has under
them what the whole bag has (`get?_settings_path`): no key is lost to another table. So a
draft is built as if no setting had been gathered, and what else stands in the bag does
not matter (`build_eq_resolve`). -/
namespace TopicTables

/-! ### What a draft holds -/

/-- A draft has under the paths of its table what the whole bag has. -/
theorem get?_settings_path {bag : Bag} {d : Draft} (hd : d ∈ (group bag).items)
    (s : TableSetting) : d.settings.get? (d.address.path s) = bag.get? (d.address.path s) := by
  have hfind := Roster.find?_of_items_eq_filter ((gathered_group bag).settings d hd)
    fun e _ he => Address.receives_path (Draft.admissible hd) ⟨s, he⟩
  rw [Bag.get?, Bag.get?, hfind]

/-- **A draft is built as its table is resolved from the whole bag**, and the same in
every bag that agrees on its paths and has any setting of the table. -/
theorem build_eq_resolve (bag : Bag) :
    ∀ d ∈ (group bag).items, d.build = resolve d.address bag ∧
      ∀ bag' : Bag, (∀ s, bag'.get? (d.address.path s) = bag.get? (d.address.path s)) →
        ∀ d' ∈ (group bag').items, d'.address = d.address → d'.build = d.build := by
  have hbuild : ∀ (bag : Bag), ∀ d ∈ (group bag).items, d.build = resolve d.address bag :=
    fun _ _ hd => resolve_congr (get?_settings_path hd)
  refine fun d hd => ⟨hbuild bag d hd, fun bag' hsame d' hd' haddress => ?_⟩
  rw [hbuild bag' d' hd', hbuild bag d hd, haddress]
  exact resolve_congr hsame

/-- A setting whose key ends in a line break, and one of another table, stand beside the
settings of a table in one of two bags. -/
theorem build_beside_others :
    ∃ bag bag' : Bag, ∃ d ∈ (group bag).items, ∃ d' ∈ (group bag').items,
      bag.keys ≠ bag'.keys ∧ d.address = ⟨"a".toList, "k".toList, "t".toList⟩ ∧
        d.build = resolve ⟨"a".toList, "k".toList, "t".toList⟩ bag ∧ d'.build = d.build := by
  let a : Address := ⟨"a".toList, "k".toList, "t".toList⟩
  let bag : Bag := ⟨[("topic.a.k.t.mapping".toList, .text "c=value.x".toList),
    ("topic.a.k.t.ttl\n".toList, .scalar (.int 5)),
    ("topic.b.k.t.ttl".toList, .scalar (.int 7))], by decide⟩
  let bag' : Bag := ⟨[("topic.a.k.t.mapping".toList, .text "c=value.x".toList)], by decide⟩
  have hkey : a ∈ (group bag).keys := by decide
  have hkey' : a ∈ (group bag').keys := by decide
  obtain ⟨d, hd, haddress⟩ := List.mem_map.1 hkey
  obtain ⟨d', hd', haddress'⟩ := List.mem_map.1 hkey'
  have hsame : ∀ s, bag'.get? (a.path s) = bag.get? (a.path s) := by
    intro s
    have hfilter : bag'.items = bag.items.filter fun e => a.Owns e.1 := rfl
    rw [Bag.get?, Bag.get?, Roster.find?_of_items_eq_filter hfilter]
    exact fun e _ he => decide_eq_true ⟨s, he⟩
  obtain ⟨hresolve, hbuild⟩ := build_eq_resolve bag d hd
  rw [haddress] at hresolve hbuild
  exact ⟨bag, bag', d, hd, d', hd', by decide, haddress, hresolve, hbuild bag' hsame d' hd' haddress'⟩

end TopicTables
