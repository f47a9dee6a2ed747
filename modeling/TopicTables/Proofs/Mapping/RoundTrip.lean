import TopicTables.Proofs.Mapping.Grammar

/-! Writing a mapping and reading it again.

Columns are shown in the form that a name needs, and segments of a source in the form
that a segment needs; both read back. What reading can give at all is *readable*: at
least one column, no empty name, and sources that can be written. On those mappings
writing and reading are inverse, and on no others (`rereads_iff_readable`). -/
namespace TopicTables

/-- What an entry says: the internal form of its column, and its source. -/
def Entry.content (e : Entry) : Text × Source := (e.column.internal, e.source)

/-- The entry names a column, and its source can be written. -/
structure Entry.Readable (e : Entry) : Prop where
  column : e.column.internal ≠ []
  source : e.source.Readable

namespace Mapping

/-- There is an entry, and every entry can be written. -/
structure Readable (m : Mapping) : Prop where
  nonempty : m.items ≠ []
  entries : ∀ e ∈ m.items, e.Readable

/-- What is written for the mapping is read without a defect, as the same columns with
the same sources in the same order. -/
def Rereads (path : Text) (m : Mapping) : Prop :=
  (read path m.render).errors = [] ∧
    (read path m.render).mapping.items.map Entry.content = m.items.map Entry.content

end Mapping

/-! ### One entry -/

theorem Entry.readable_of_parse {t : Text} {e : Entry} (h : parse t = .ok e) : e.Readable := by
  obtain ⟨-, left, right, -, hcolumn, hsource⟩ := parse_eq_ok_iff.1 h
  exact ⟨(Identifier.parse_eq_ok_iff.1 hcolumn).internal_ne_nil,
    (Source.parse_eq_ok_iff.1 hsource).readable⟩

/-- A readable entry is written so that the grammar derives it. -/
theorem Entry.derives_render {e : Entry} (h : e.Readable) :
    ∃ e', Derives e.render e' ∧ e'.content = e.content := by
  obtain ⟨column, hspelling, hinternal⟩ := Identifier.spelling_pretty h.column
  refine ⟨⟨column, e.source⟩, ⟨e.column.pretty, e.source.render, _, _, rfl, padded_self _,
    padded_self _, Identifier.pretty_ne_nil e.column, isSide_pretty e.column,
    Identifier.parse_eq_ok_iff.2 hspelling,
    Source.parse_eq_ok_iff.2 (Source.spelling_render h.source)⟩, ?_⟩
  rw [content, content, hinternal]

/-! ### Whole mappings -/

namespace Mapping

/-- Whatever the text and its defects, what is recognized can be written. -/
theorem readable_of_mem_read {path t : Text} :
    ∀ e ∈ (read path t).mapping.items, e.Readable := by
  intro e he
  rw [read] at he
  split at he
  · exact absurd he List.not_mem_nil
  · obtain ⟨entry, hentry⟩ := Reading.parsed_of_mem_foldl (fun _ h => absurd h List.not_mem_nil) e he
    exact Entry.readable_of_parse hentry

theorem joinWith_comma_space (t : Text) (ts : List Text) :
    joinWith ", ".toList (t :: ts) = joinWith [','] (t :: ts.map (' ' :: ·)) := by
  induction ts generalizing t with
  | nil => rw [List.map_nil, joinWith_singleton, joinWith_singleton]
  | cons u us ih =>
    rw [joinWith_cons (List.cons_ne_nil u us), ih, List.map_cons,
      joinWith_cons (List.cons_ne_nil _ _), joinWith_cons_left, List.append_assoc,
      List.append_assoc]
    rfl

/-- Entries that are derived up to their spelling are derived under some spelling. -/
theorem exists_forall₂_derives {texts : List Text} {es : List Entry}
    (h : List.Forall₂ (fun t e => ∃ e', Entry.Derives t e' ∧ e'.content = e.content) texts es) :
    ∃ es', List.Forall₂ Entry.Derives texts es' ∧ es'.map Entry.content = es.map Entry.content := by
  induction h with
  | nil => exact ⟨[], .nil, rfl⟩
  | cons hentry _ ih =>
    obtain ⟨e', he, hcontent⟩ := hentry
    obtain ⟨es', hes, hcontents⟩ := ih
    exact ⟨e' :: es', .cons he hes, by rw [List.map_cons, List.map_cons, hcontent, hcontents]⟩

/-- **What is written for a readable mapping is derived by the grammar.** -/
theorem derives_render {m : Mapping} (h : m.Readable) :
    ∃ es, Derives m.render es ∧ es.map Entry.content = m.items.map Entry.content := by
  obtain ⟨e, rest, hitems⟩ := List.exists_cons_of_ne_nil h.nonempty
  have hreadable := h.entries
  rw [hitems] at hreadable
  have htail : List.Forall₂ (fun t e => ∃ e', Entry.Derives t e' ∧ e'.content = e.content)
      ((rest.map Entry.render).map (' ' :: ·)) rest := by
    rw [List.map_map, List.forall₂_map_left_iff, List.forall₂_same]
    intro d hd
    obtain ⟨d', hd', hcontent⟩ := Entry.derives_render (hreadable d (List.mem_cons_of_mem e hd))
    exact ⟨d', hd'.padded ((padded_self _).cons (by decide)), hcontent⟩
  obtain ⟨es, hes, hcontent⟩ :=
    exists_forall₂_derives (.cons (Entry.derives_render (hreadable e List.mem_cons_self)) htail)
  refine ⟨es, ⟨⟨_, List.cons_ne_nil _ _, ?_, hes⟩, ?_⟩, by rw [hitems, hcontent]⟩
  · rw [render, hitems, List.map_cons, joinWith_comma_space]
  · have hcolumns := congrArg (List.map Prod.fst) hcontent
    rw [List.map_map, List.map_map, ← hitems] at hcolumns
    exact hcolumns.symm ▸ m.distinct

theorem rereads_of_readable {m : Mapping} (h : m.Readable) (path : Text) : Rereads path m := by
  obtain ⟨es, hes, hcontent⟩ := derives_render h
  obtain ⟨herrors, hitems⟩ := read_of_derives hes path
  exact ⟨herrors, by rw [hitems, hcontent]⟩

theorem readable_of_rereads {path : Text} {m : Mapping} (h : Rereads path m) : m.Readable := by
  obtain ⟨herrors, hcontent⟩ := h
  refine ⟨fun hnil => ?_, fun e he => ?_⟩
  · rw [hnil, List.map_nil, List.map_eq_nil_iff] at hcontent
    exact (derives_of_read herrors).ne_nil hcontent
  · have hmem := List.mem_map_of_mem (f := Entry.content) he
    rw [← hcontent] at hmem
    obtain ⟨e', he', hsame⟩ := List.mem_map.1 hmem
    obtain ⟨hcolumn, hsource⟩ := Prod.mk.inj hsame
    have hread := readable_of_mem_read e' he'
    exact ⟨hcolumn ▸ hread.column, hsource ▸ hread.source⟩

/-- **Writing and reading are inverse on the readable mappings and on no others**, and
whatever is recognized in a text, defects or not, is readable unless it is nothing. -/
theorem rereads_iff_readable (path : Text) :
    (∀ m : Mapping, Rereads path m ↔ m.Readable) ∧
      ∀ t, (read path t).mapping.items ≠ [] →
        (read path t).mapping.Readable ∧ Rereads path (read path t).mapping := by
  refine ⟨fun m => ⟨readable_of_rereads, fun h => rereads_of_readable h path⟩, fun t hne => ?_⟩
  have hreadable : (read path t).mapping.Readable := ⟨hne, readable_of_mem_read⟩
  exact ⟨hreadable, rereads_of_readable hreadable path⟩

/-- An empty entry between two others is reported, and the two are written and read again. -/
theorem rereads_beside_defect :
    (read [] "\"a b\"=key.\"x,y\", ,c=value.d.e".toList).errors = [.entry .empty] ∧
      (read [] "\"a b\"=key.\"x,y\", ,c=value.d.e".toList).mapping.Readable ∧
      Rereads [] (read [] "\"a b\"=key.\"x,y\", ,c=value.d.e".toList).mapping :=
  ⟨by decide, (rereads_iff_readable []).2 _ (by decide)⟩

end Mapping
end TopicTables
