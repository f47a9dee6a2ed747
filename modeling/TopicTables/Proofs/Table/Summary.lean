import TopicTables.Proofs.Table.WellFormed

/-! What the summary of a configuration lists.

A summary cuts the text of the mapping at all of its commas, and a mapping is read from the
pieces between the commas that stand outside quotes. So there is one entry line for each
mapped column, and each line is its entry, exactly if no comma of the text stands inside
quotes (`summary_lists`); a comma in a quoted name cuts its entry in two
(`quoted_comma_cut`). -/
namespace TopicTables

/-! ### Entries without the white space around them -/

theorem padded_dropWhile_space (t : Text) : Padded (t.dropWhile (· = ' ')) t := by
  refine ⟨t.takeWhile (· = ' '), [], ?_, fun c hc => ?_, isMargin_nil⟩
  · rw [List.append_nil, List.takeWhile_append_dropWhile]
  · obtain rfl : c = ' ' := by simpa using List.mem_takeWhile_imp hc
    decide

theorem mem_dropWhile_space_iff {c : Char} (hc : c ≠ ' ') (t : Text) :
    c ∈ t.dropWhile (· = ' ') ↔ c ∈ t := by
  refine ⟨fun h => (List.dropWhile_sublist _).subset h, fun h => ?_⟩
  rw [← List.takeWhile_append_dropWhile (p := (· = ' ')) (l := t), List.mem_append] at h
  refine h.resolve_left fun hfront => hc ?_
  simpa using List.mem_takeWhile_imp hfront

/-- An entry stays one without the white space around it. -/
theorem Entry.Derives.trimmed {t u : Text} {e : Entry} (h : Entry.Derives u e)
    (hu : Padded t u) : Entry.Derives t e := by
  have hparse := Entry.parse_of_derives h
  have hpiece := h.piece.2
  obtain ⟨before, after, rfl, hb, ha⟩ := hu
  obtain ⟨before', after', ht, hb', ha'⟩ := padded_strip t
  have hstrip : strip (before ++ t ++ after) = strip t := by
    refine strip_padded ⟨before ++ before', after' ++ after, ?_, hb.append hb', ha'.append ha⟩
      (trimmed_strip t)
    nth_rewrite 1 [ht]
    simp only [List.append_assoc]
  rw [hstrip] at hparse
  have hcomma := hpiece.left.right (Quoted.isClosed_of_not_mem (hb.not_mem (by decide)))
  exact Entry.derives_of_parse hcomma hparse

/-- A text of one entry is a mapping of one column. -/
theorem Entry.Derives.readsAs {t : Text} {e : Entry} (h : Entry.Derives t e) : ReadsAs t [e] :=
  Mapping.read_of_derives
    ⟨⟨[t], List.cons_ne_nil _ _, (joinWith_singleton [','] t).symm, .cons h .nil⟩,
      List.nodup_singleton _⟩

namespace Config

/-! ### The entry lines -/

theorem length_summaryEntries (t : Text) : (summaryEntries t).length = t.count ',' + 1 := by
  rw [← length_splitOn, summaryEntries]
  split
  · next h => rw [h]
  · next h => rw [h, List.length_cons, List.length_cons, List.length_map]

theorem summaryEntries_ne_nil (t : Text) : summaryEntries t ≠ [] := by
  intro hnil
  have hlength := length_summaryEntries t
  rw [hnil] at hlength
  cases hlength

/-- What holds of pieces whatever spaces are in front of them holds of the entry lines. -/
theorem forall₂_summaryEntries {α : Type} {R : Text → α → Prop} {t : Text} {l : List α}
    (hspaces : ∀ p a, R p a → R (p.dropWhile (· = ' ')) a)
    (h : List.Forall₂ R (t.splitOn ',') l) : List.Forall₂ R (summaryEntries t) l := by
  rw [summaryEntries]
  split
  · next hnil => exact absurd hnil (List.splitOn_ne_nil ',' t)
  · next first others hpieces =>
    rw [hpieces] at h
    cases h with
    | cons hfirst hothers =>
      exact .cons hfirst (List.forall₂_map_left_iff.2 (hothers.imp hspaces))

/-- No character but commas and spaces is lost. -/
theorem exists_mem_summaryEntries_iff {c : Char} (hcomma : c ≠ ',') (hspace : c ≠ ' ') (t : Text) :
    (∃ line ∈ summaryEntries t, c ∈ line) ↔ c ∈ t := by
  rw [← exists_mem_splitOn_iff hcomma, summaryEntries]
  split
  · next hnil => exact absurd hnil (List.splitOn_ne_nil ',' t)
  · next hcons => simp [hcons, mem_dropWhile_space_iff hspace]

/-! ### The lines of a summary -/

/-- The lines that a summary has for the entries of the mapping. -/
def listing (c : Config) : Text :=
  joinWith ['\n'] ((summaryEntries c.mappingText).map ("      ".toList ++ ·))

/-- How the summary of a configuration lists the entries of the mapping. -/
structure Lists (c : Config) : Prop where
  /-- The entry lines stand at the end of the summary. -/
  summary : ∃ head, c.summary = head ++ ", mapping:\n".toList ++ c.listing ++ "\n\x7d".toList
  /-- Each piece is a line, unless the text of the mapping has a line break. -/
  lines_iff : c.listing.splitOn '\n' = (summaryEntries c.mappingText).map ("      ".toList ++ ·) ↔
    '\n' ∉ c.mappingText
  /-- There is at least one piece for each column, and no other exactly if every comma of the
  text stands outside quotes. -/
  length_le : c.mapping.items.length ≤ (summaryEntries c.mappingText).length
  length_iff : (summaryEntries c.mappingText).length = c.mapping.items.length ↔
    Quoted.NoneInside ',' c.mappingText
  /-- Then, and only then, each piece by itself is read as its entry. -/
  entries_iff : List.Forall₂ (fun line e => ReadsAs line [e]) (summaryEntries c.mappingText)
    c.mapping.items ↔ Quoted.NoneInside ',' c.mappingText

section Listing
variable {t : Text} {es : List Entry}

theorem length_summaryEntries_iff (h : Mapping.Derives t es) :
    es.length ≤ (summaryEntries t).length ∧
      ((summaryEntries t).length = es.length ↔ Quoted.NoneInside ',' t) := by
  obtain ⟨texts, hne, rfl, hentries⟩ := h.entries
  have hcount := count_joinWith ',' hne
  have hinside := Quoted.noneInside_joinWith (by decide) hne (Mapping.forall_piece_of_derives hentries)
  rw [length_summaryEntries, ← hentries.length_eq, hinside, ← List.count_eq_zero]
  omega

theorem forall₂_readsAs_iff (h : Mapping.Derives t es) :
    List.Forall₂ (fun line e => ReadsAs line [e]) (summaryEntries t) es ↔
      Quoted.NoneInside ',' t := by
  refine ⟨fun hlines => (length_summaryEntries_iff h).2.1 hlines.length_eq, fun hinside => ?_⟩
  obtain ⟨texts, hne, rfl, hentries⟩ := h.entries
  rw [Quoted.noneInside_joinWith (by decide) hne (Mapping.forall_piece_of_derives hentries),
    List.mem_flatten] at hinside
  have hpieces : (joinWith [','] texts).splitOn ',' = texts :=
    List.splitOn_intercalate ',' (fun p hp hmem => hinside ⟨p, hp, hmem⟩) hne
  have hlines : List.Forall₂ Entry.Derives (summaryEntries (joinWith [','] texts)) es := by
    refine forall₂_summaryEntries (fun p _ hp => hp.trimmed (padded_dropWhile_space p)) ?_
    rwa [hpieces]
  exact hlines.imp fun _ _ hline => hline.readsAs

end Listing

theorem splitOn_listing_iff (c : Config) :
    c.listing.splitOn '\n' = (summaryEntries c.mappingText).map ("      ".toList ++ ·) ↔
      '\n' ∉ c.mappingText := by
  rw [← exists_mem_summaryEntries_iff (by decide : '\n' ≠ ',') (by decide) c.mappingText]
  constructor
  · intro h hsome
    obtain ⟨line, hline, hbreak⟩ := hsome
    have hmem : "      ".toList ++ line ∈ c.listing.splitOn '\n' := by
      rw [h]
      exact List.mem_map_of_mem hline
    exact not_mem_of_mem_splitOn hmem (List.mem_append_right _ hbreak)
  · intro hnone
    refine List.splitOn_intercalate '\n' (fun l hl hbreak => ?_) ?_
    · obtain ⟨line, hline, rfl⟩ := List.mem_map.1 hl
      refine hnone ⟨line, hline, (List.mem_append.1 hbreak).resolve_left (by decide)⟩
    · exact fun hnil => absurd (List.map_eq_nil_iff.1 hnil) (summaryEntries_ne_nil _)

/-- **A summary lists a mapping entry by entry, unless there is a comma in a quoted name.** -/
theorem summary_lists {a : Address} {bag : Bag} {c : Config} (h : resolve a bag = .ok c) :
    c.Lists := by
  obtain ⟨herrors, hread⟩ := mapping_of_resolve h
  have hderives := hread ▸ Mapping.derives_of_read herrors
  obtain ⟨hle, hlength⟩ := length_summaryEntries_iff hderives
  exact ⟨⟨_, rfl⟩, c.splitOn_listing_iff, hle, hlength, forall₂_readsAs_iff hderives⟩

/-- Two entries, one of them with an equal sign and spaces inside quotes. -/
theorem summary_lists_two :
    ∃ (a : Address) (bag : Bag) (c : Config), resolve a bag = .ok c ∧ c.Lists ∧
      c.mapping.items.map Entry.render = ["a=key.__self".toList, "\"b = c\"=value.x".toList] ∧
      summaryEntries c.mappingText = ["a=key".toList, "\"b = c\"=value.x".toList] := by
  let a : Address := ⟨"t".toList, "ks".toList, "tbl".toList⟩
  let bag : Bag := .ofList [(a.path .mapping, .text "a=key,  \"b = c\"=value.x".toList)]
  have hfound : (resolve a bag).toOption.map
      (fun c => (c.mapping.items.map Entry.render, summaryEntries c.mappingText)) =
      some (["a=key.__self".toList, "\"b = c\"=value.x".toList],
        ["a=key".toList, "\"b = c\"=value.x".toList]) := by decide +kernel
  obtain ⟨c, hresolve, hparts⟩ := exists_of_map_toOption hfound
  exact ⟨a, bag, c, hresolve, summary_lists hresolve, Prod.mk.inj hparts⟩

/-- A comma in a quoted column: the one entry is cut into two lines, and neither of them is
an entry. -/
theorem quoted_comma_cut :
    ∃ (a : Address) (bag : Bag) (c : Config), resolve a bag = .ok c ∧
      c.mapping.items.map Entry.render = ["\"a,b\"=key.__self".toList] ∧
      summaryEntries c.mappingText = ["\"a".toList, "b\"=key".toList] ∧
      ∀ line ∈ summaryEntries c.mappingText, (Mapping.read [] line).errors ≠ [] := by
  let a : Address := ⟨"t".toList, "ks".toList, "tbl".toList⟩
  let bag : Bag := .ofList [(a.path .mapping, .text "\"a,b\"=key".toList)]
  have hfound : (resolve a bag).toOption.map
      (fun c => (c.mapping.items.map Entry.render, summaryEntries c.mappingText)) =
      some (["\"a,b\"=key.__self".toList], ["\"a".toList, "b\"=key".toList]) := by decide +kernel
  obtain ⟨c, hresolve, hparts⟩ := exists_of_map_toOption hfound
  obtain ⟨hmapping, hlines⟩ := Prod.mk.inj hparts
  refine ⟨a, bag, c, hresolve, hmapping, hlines, ?_⟩
  rw [hlines]
  decide

end Config
end TopicTables
