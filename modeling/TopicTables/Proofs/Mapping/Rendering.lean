import TopicTables.Proofs.Mapping.RoundTrip

/-! What is written tells mappings apart.

Not every mapping can be read again: a column or a segment may be empty, and several
segments may need quotes. Each is still written in a way of its own. Every text that a
separator could cut stands in quotes, so cutting what is written at the commas, the equal
signs and the dots outside quotes gives the parts back (`splitOutside_render`), and each
part is written for one text only. `render_determines`: equal texts come from equal
columns with equal sources in the same order. -/
namespace TopicTables

/-! ### Sources -/

theorem RecordPart.eq_of_name_eq {part part' : RecordPart} (h : part.name = part'.name) :
    part = part' := by
  revert h
  cases part <;> cases part' <;> decide

namespace Source

theorem renderSegment_injective : Function.Injective renderSegment := by
  have hbare : ∀ t : Text, t.any needsQuotes = false → '"' ∉ t := fun t h hmem =>
    absurd (List.any_eq_false.1 h '"' hmem) (by decide)
  intro s t h
  exact Quoted.eq_of_enclosed_or_bare (hbare s) (hbare t) h

/-- A character that needs quotes stands only inside them, and the quotes pair up. -/
theorem piece_renderSegment {separator : Char} (hs : separator ≠ '"')
    (hneeds : needsQuotes separator = true) (t : Text) :
    Quoted.isClosed (renderSegment t) = true ∧ Quoted.NoneOutside separator (renderSegment t) := by
  rw [renderSegment]
  split
  · exact ⟨Quoted.isClosed_enclose_double t, Quoted.noneOutside_enclose_double hs t⟩
  · next hbare =>
    have hnot : ∀ c, needsQuotes c = true → c ∉ t := fun c hc hmem =>
      hbare (List.any_eq_true.2 ⟨c, hmem, hc⟩)
    exact ⟨Quoted.isClosed_of_not_mem (hnot '"' (by decide)),
      Quoted.inside_of_not_mem (hnot separator hneeds)⟩

/-- The name of the part is written as a segment would be. -/
theorem render_eq_joinWith (s : Source) :
    s.render = joinWith ['.'] ((s.part.name :: s.segments).map renderSegment) := by
  have hname : renderSegment s.part.name = s.part.name := by cases s.part <;> rfl
  rw [render, List.map_cons, hname]

theorem piece_render {separator : Char} (hs : separator ≠ '"') (hdot : '.' ≠ separator)
    (hneeds : needsQuotes separator = true) (s : Source) :
    Quoted.isClosed s.render = true ∧ Quoted.NoneOutside separator s.render := by
  rw [render_eq_joinWith]
  apply Quoted.piece_joinWith (by decide) hdot
  intro t ht
  obtain ⟨u, -, rfl⟩ := List.mem_map.1 ht
  exact piece_renderSegment hs hneeds u

/-- Cutting a rendered source at its dots gives the part and the segments back. -/
theorem splitOutside_render (s : Source) :
    Quoted.splitOutside '.' s.render = (s.part.name :: s.segments).map renderSegment := by
  rw [render_eq_joinWith]
  apply Quoted.splitOutside_joinWith (by decide) (by simp)
  intro t ht
  obtain ⟨u, -, rfl⟩ := List.mem_map.1 ht
  exact piece_renderSegment (by decide) (by decide) u

/-- **No two sources are written alike**, whether or not they can be read. -/
theorem render_eq_iff {s t : Source} : s.render = t.render ↔ s = t := by
  constructor
  · intro h
    have hpieces := congrArg (Quoted.splitOutside '.') h
    rw [splitOutside_render, splitOutside_render] at hpieces
    have hparts := List.map_injective_iff.2 renderSegment_injective hpieces
    obtain ⟨hname, hsegments⟩ := List.cons.inj hparts
    have hpart := RecordPart.eq_of_name_eq hname
    cases s
    cases t
    simp only [mk.injEq]
    exact ⟨hpart, hsegments⟩
  · intro h
    rw [h]

end Source

/-! ### Entries -/

namespace Entry

/-- Cutting a rendered entry at its equal sign gives its two sides back. -/
theorem splitOutside_render (e : Entry) :
    Quoted.splitOutside '=' e.render = [e.column.pretty, e.source.render] := by
  have hcolumn := isSide_pretty e.column
  obtain ⟨hclosed, hassign⟩ :=
    Source.piece_render (by decide) (by decide) (by decide : Source.needsQuotes '=' = true) e.source
  exact Quoted.splitOutside_pair (by decide) hcolumn.closed hcolumn.noAssignment hclosed hassign

theorem piece_render (e : Entry) :
    Quoted.isClosed e.render = true ∧ Quoted.NoneOutside ',' e.render := by
  have hcolumn := isSide_pretty e.column
  apply Quoted.piece_append_cons (by decide) (by decide) ⟨hcolumn.closed, hcolumn.noComma⟩
  exact Source.piece_render (by decide) (by decide) (by decide) e.source

/-- An entry is written as no other that says something else. -/
theorem render_eq_iff {d e : Entry} : d.render = e.render ↔ d.content = e.content := by
  constructor
  · intro h
    have hsides := congrArg (Quoted.splitOutside '=') h
    rw [splitOutside_render, splitOutside_render, List.cons_eq_cons, List.cons_eq_cons] at hsides
    obtain ⟨hcolumn, hsource, -⟩ := hsides
    exact Prod.ext (Identifier.pretty_eq_iff.1 hcolumn) (Source.render_eq_iff.1 hsource)
  · intro h
    obtain ⟨hcolumn, hsource⟩ := Prod.mk.inj h
    rw [render, render, Identifier.pretty_eq_iff.2 hcolumn, hsource]

theorem map_render_eq_iff {ds es : List Entry} :
    ds.map render = es.map render ↔ ds.map content = es.map content := by
  have hmap : ∀ {α : Type} (f : Entry → α),
      ds.map f = es.map f ↔ List.Forall₂ (fun d e => f d = f e) ds es := by
    intro α f
    rw [← List.forall₂_eq_eq_eq, List.forall₂_map_left_iff, List.forall₂_map_right_iff]
  simp only [hmap, render_eq_iff]

end Entry

/-! ### Mappings -/

namespace Mapping

/-- Cutting a rendered mapping at its commas gives its entries back. -/
theorem splitOutside_render {m : Mapping} {e : Entry} {rest : List Entry} (h : m.items = e :: rest) :
    Quoted.splitOutside ',' m.render = e.render :: (rest.map Entry.render).map (' ' :: ·) := by
  rw [render, h, List.map_cons, joinWith_comma_space]
  apply Quoted.splitOutside_joinWith (by decide) (List.cons_ne_nil _ _)
  refine List.forall_mem_cons.2 ⟨e.piece_render, fun t ht => ?_⟩
  obtain ⟨u, hu, rfl⟩ := List.mem_map.1 ht
  obtain ⟨d, -, rfl⟩ := List.mem_map.1 hu
  exact Quoted.piece_append_cons (a := []) (by decide) (by decide)
    ⟨rfl, Quoted.inside_of_not_mem List.not_mem_nil⟩ d.piece_render

theorem render_eq_nil_iff {m : Mapping} : m.render = [] ↔ m.items = [] := by
  constructor
  · intro h
    by_contra hne
    obtain ⟨e, rest, hitems⟩ := List.exists_cons_of_ne_nil hne
    have hpieces := splitOutside_render hitems
    rw [h] at hpieces
    have hfirst : [] = e.render := (List.cons.inj hpieces).1
    exact List.append_ne_nil_of_right_ne_nil _ (List.cons_ne_nil _ _) hfirst.symm
  · intro h
    rw [render, h]
    rfl

/-- **No two mappings are written alike**, nor two sources: what is written determines the
columns, their sources and the order, also where it cannot be read again. -/
theorem render_determines :
    (∀ m n : Mapping, m.render = n.render ↔ m.items.map Entry.content = n.items.map Entry.content) ∧
      ∀ s t : Source, s.render = t.render ↔ s = t := by
  refine ⟨fun m n => ⟨fun h => ?_, fun h => ?_⟩, fun s t => Source.render_eq_iff⟩
  · cases hm : m.items with
    | nil =>
      rw [render_eq_nil_iff.1 (h ▸ render_eq_nil_iff.2 hm)]
    | cons d ds =>
      have hne : n.items ≠ [] := by
        intro hn
        rw [render_eq_nil_iff.2 hn, render_eq_nil_iff, hm] at h
        cases h
      obtain ⟨e, es, hn⟩ := List.exists_cons_of_ne_nil hne
      have hpieces := congrArg (Quoted.splitOutside ',') h
      rw [splitOutside_render hm, splitOutside_render hn, List.cons_eq_cons] at hpieces
      obtain ⟨hfirst, hrest⟩ := hpieces
      have hothers := List.map_injective_iff.2 List.cons_injective hrest
      rw [hn, ← Entry.map_render_eq_iff, List.map_cons, List.map_cons, hfirst, hothers]
  · rw [render, render, Entry.map_render_eq_iff.2 h]

/-- No segment, an empty one and two empty ones: none of them can be read. -/
example : ([⟨.key, []⟩, ⟨.key, [[]]⟩, ⟨.key, [[], []]⟩] : List Source).map Source.render =
    ["key".toList, "key.".toList, "key..".toList] := by
  decide

end Mapping
end TopicTables
