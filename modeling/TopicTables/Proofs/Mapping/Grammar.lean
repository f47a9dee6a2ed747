import TopicTables.Proofs.Mapping.Reading
import TopicTables.Proofs.Mapping.Side

/-! The grammar of mappings.

A mapping is one or more entries between commas, and an entry is a column and a source
around an equal sign, with any white space around each of the two. A column may hold
separators, but only inside quotes that pair up. `read_iff_derives`: a text is read
without a defect exactly if the grammar derives some entries from it, and then exactly
those are read. -/
namespace TopicTables

/-! ### Entries -/

/-- The text is an entry: a column and a source around an equal sign, each with any
white space around it. -/
structure Entry.Derives (t : Text) (e : Entry) : Prop where
  sides : ∃ left right column source, t = left ++ '=' :: right ∧
    Padded column left ∧ Padded source right ∧ column ≠ [] ∧ IsSide column ∧
    Identifier.parse column = .ok e.column ∧ Source.parse source = .ok e.source

namespace Entry

theorem parseSides_eq_ok_iff {entry column field : Text} {e : Entry} :
    parseSides entry column field = .ok e ↔
      Identifier.parse column = .ok e.column ∧ Source.parse field = .ok e.source := by
  constructor
  · intro h
    rw [parseSides] at h
    split at h
    · cases h
    · split at h
      · cases h
      · split at h
        · cases h
        · next hcolumn =>
          split at h
          · cases h
          · next hsource =>
            cases h
            exact ⟨hcolumn, hsource⟩
  · intro h
    obtain ⟨hcolumn, hsource⟩ := h
    have hcne : column ≠ [] := Identifier.ne_nil_of_parse hcolumn
    have hsne : field ≠ [] := (Source.parse_eq_ok_iff.1 hsource).ne_nil
    rw [parseSides, if_neg hcne, if_neg hsne, hcolumn]
    simp only [hsource]

/-- An entry is read if its quotes pair up and its one equal sign outside them has a
column before it and a source behind it. -/
theorem parse_eq_ok_iff {t : Text} {e : Entry} : parse t = .ok e ↔
    Quoted.isClosed t = true ∧ ∃ left right, Quoted.splitOutside '=' t = [left, right] ∧
      Identifier.parse (strip left) = .ok e.column ∧
      Source.parse (strip right) = .ok e.source := by
  constructor
  · intro h
    rw [parse] at h
    split at h
    · cases h
    · split at h
      · cases h
      · next hclosed =>
        split at h
        · next left right hpieces =>
          exact ⟨by simpa using hclosed, left, right, hpieces, parseSides_eq_ok_iff.1 h⟩
        · cases h
        · cases h
  · intro h
    obtain ⟨hclosed, left, right, hpieces, hsides⟩ := h
    have hne : t ≠ [] := by
      intro hnil
      rw [hnil] at hpieces
      cases hpieces
    rw [parse, if_neg hne, if_neg (by rw [hclosed]; decide), hpieces]
    exact parseSides_eq_ok_iff.2 hsides

/-- White space around an entry belongs to no side of it. -/
theorem Derives.padded {t u : Text} {e : Entry} (h : Derives t e) (hu : Padded t u) :
    Derives u e := by
  obtain ⟨before, after, rfl, hb, ha⟩ := hu
  obtain ⟨left, right, column, source, rfl, hleft, hright, hsides⟩ := h.sides
  exact ⟨before ++ left, right ++ after, column, source, by simp, hleft.append_left hb,
    hright.append_right ha, hsides⟩

/-- An entry of the grammar may stand between commas. -/
theorem Derives.piece {t : Text} {e : Entry} (h : Derives t e) :
    Quoted.isClosed t = true ∧ Quoted.NoneOutside ',' t := by
  obtain ⟨left, right, column, source, rfl, hleft, hright, -, hcolumn, -, hsource⟩ := h.sides
  obtain ⟨hlclosed, hlcomma, -⟩ := hcolumn.padded hleft
  obtain ⟨hrclosed, hrcomma, -⟩ := (Source.parse_eq_ok_iff.1 hsource).isSide.padded hright
  exact Quoted.piece_append_cons (by decide) (by decide) ⟨hlclosed, hlcomma⟩ ⟨hrclosed, hrcomma⟩

/-- What the grammar derives is read. -/
theorem parse_of_derives {t : Text} {e : Entry} (h : Derives t e) : parse (strip t) = .ok e := by
  obtain ⟨_, _, column, source, rfl, ⟨w₁, w₂, rfl, h₁, h₂⟩, ⟨w₃, w₄, rfl, h₃, h₄⟩, hne, hcolumn,
    hparse, hsource⟩ := h.sides
  have hspelling := Source.parse_eq_ok_iff.1 hsource
  have hcore : Padded ((column ++ w₂) ++ '=' :: (w₃ ++ source))
      ((w₁ ++ column ++ w₂) ++ '=' :: (w₃ ++ source ++ w₄)) :=
    ⟨w₁, w₄, by simp only [List.append_assoc, List.cons_append], h₁, h₄⟩
  have htrimmed := hcolumn.trimmed.around hspelling.isSide.trimmed hne hspelling.ne_nil
    (w₂ ++ '=' :: w₃)
  have hleft : Padded column (column ++ w₂) := (padded_self column).append_right h₂
  have hright : Padded source (w₃ ++ source) := (padded_self source).append_left h₃
  obtain ⟨hlclosed, -, hlassign⟩ := hcolumn.padded hleft
  obtain ⟨hrclosed, -, hrassign⟩ := hspelling.isSide.padded hright
  rw [strip_padded hcore (by simpa only [List.append_assoc, List.cons_append] using htrimmed)]
  refine parse_eq_ok_iff.2 ⟨?_, _, _, Quoted.splitOutside_pair (by decide) hlclosed hlassign hrclosed hrassign,
    ?_, ?_⟩
  · rw [Quoted.isClosed_append_cons (by decide) hlclosed, hrclosed]
  · rw [strip_padded hleft hcolumn.trimmed, hparse]
  · rw [strip_padded hright hspelling.isSide.trimmed, hsource]

/-- What is read is derived by the grammar. -/
theorem derives_of_parse {t : Text} {e : Entry} (hcomma : Quoted.NoneOutside ',' t)
    (h : parse (strip t) = .ok e) : Derives t e := by
  obtain ⟨before, after, ht, hb, ha⟩ := padded_strip t
  obtain ⟨hclosed, left, right, hpieces, hcolumn, hsource⟩ := parse_eq_ok_iff.1 h
  have hmem : left ∈ Quoted.splitOutside '=' (strip t) := by
    rw [hpieces]
    exact List.mem_cons_self
  have hjoin : strip t = left ++ '=' :: right := by
    rw [← Quoted.joinWith_splitOutside (by decide : '=' ≠ '"') (strip t), hpieces,
      joinWith_cons (List.cons_ne_nil _ _), joinWith_singleton, List.append_assoc,
      List.singleton_append]
  rw [hjoin] at ht
  have hlcomma : Quoted.NoneOutside ',' left := by
    rw [ht, List.append_assoc, List.append_assoc] at hcomma
    exact (hcomma.right (Quoted.isClosed_of_not_mem (hb.not_mem (by decide)))).left
  refine ⟨before ++ left, right ++ after, strip left, strip right, ?_,
    (padded_strip left).append_left hb, (padded_strip right).append_right ha,
    Identifier.ne_nil_of_parse hcolumn,
    isSide_strip (Quoted.isClosed_of_mem_splitOutside (by decide) hclosed hmem) hlcomma
      (Quoted.noneOutside_of_mem_splitOutside (by decide) hmem), hcolumn, hsource⟩
  rw [ht]
  simp only [List.append_assoc, List.cons_append]

end Entry

/-! ### Mappings -/

namespace Mapping

/-- The text is a mapping of these entries: they stand between commas, at least one of
them, and no two name the same column. -/
structure Derives (t : Text) (es : List Entry) : Prop where
  entries : ∃ texts, texts ≠ [] ∧ t = joinWith [','] texts ∧ List.Forall₂ Entry.Derives texts es
  distinct : (es.map fun e => e.column.internal).Nodup

/-- The pieces between the commas, each read as an entry, are derived one by one. -/
theorem forall₂_derives {texts : List Text} {es : List Entry}
    (hcomma : ∀ t ∈ texts, Quoted.NoneOutside ',' t)
    (h : List.Forall₂ (fun t e => Entry.parse (strip t) = .ok e) texts es) :
    List.Forall₂ Entry.Derives texts es := by
  induction h with
  | nil => exact .nil
  | cons hentry _ ih =>
    exact .cons (Entry.derives_of_parse (hcomma _ List.mem_cons_self) hentry)
      (ih fun t ht => hcomma t (List.mem_cons_of_mem _ ht))

theorem forall_piece_of_derives {texts : List Text} {es : List Entry}
    (h : List.Forall₂ Entry.Derives texts es) :
    ∀ t ∈ texts, Quoted.isClosed t = true ∧ Quoted.NoneOutside ',' t := by
  induction h with
  | nil => exact fun _ ht => absurd ht List.not_mem_nil
  | cons hentry _ ih => exact List.forall_mem_cons.2 ⟨hentry.piece, ih⟩

/-- Entries of the grammar come back from between their commas. -/
theorem splitOutside_of_derives {texts : List Text} {es : List Entry} (hne : texts ≠ [])
    (h : List.Forall₂ Entry.Derives texts es) :
    Quoted.splitOutside ',' (joinWith [','] texts) = texts :=
  Quoted.splitOutside_joinWith (by decide) hne (forall_piece_of_derives h)

/-- A blank text holds no entry. -/
theorem strip_ne_nil_of_derives {t : Text} {es : List Entry} (h : Derives t es) : strip t ≠ [] := by
  intro hnil
  obtain ⟨before, after, ht, hb, ha⟩ := padded_strip t
  rw [hnil, List.append_nil] at ht
  have hmargin : IsMargin t := ht ▸ hb.append ha
  have hsplit := Quoted.splitOutside_of_noneOutside
    (Quoted.isClosed_of_not_mem (hmargin.not_mem (by decide)))
    (Quoted.inside_of_not_mem (hmargin.not_mem (by decide : isBlank ',' = false)))
  obtain ⟨texts, hne, rfl, hentries⟩ := h.entries
  rw [splitOutside_of_derives hne hentries] at hsplit
  rw [hsplit] at hentries
  cases hentries with
  | cons hentry _ =>
    have hparse := Entry.parse_of_derives hentry
    rw [hnil] at hparse
    cases hparse

theorem Derives.ne_nil {t : Text} {es : List Entry} (h : Derives t es) : es ≠ [] := by
  intro hnil
  obtain ⟨texts, hne, -, hentries⟩ := h.entries
  rw [hnil] at hentries
  exact hne (List.forall₂_nil_right_iff.1 hentries)

/-- White space behind the last entry belongs to that entry. -/
theorem exists_append_margin {texts : List Text} {es : List Entry} (hne : texts ≠ [])
    (h : List.Forall₂ Entry.Derives texts es) {w : Text} (hw : IsMargin w) :
    ∃ texts', texts' ≠ [] ∧ joinWith [','] texts ++ w = joinWith [','] texts' ∧
      List.Forall₂ Entry.Derives texts' es := by
  induction h with
  | nil => exact absurd rfl hne
  | @cons t _ texts _ hentry hrest ih =>
    by_cases hlast : texts = []
    · subst hlast
      have hpadded := hentry.padded ((padded_self t).append_right hw)
      exact ⟨[t ++ w], List.cons_ne_nil _ _, by simp [joinWith_singleton], .cons hpadded hrest⟩
    · obtain ⟨texts', hne', hjoin, hentries⟩ := ih hlast
      refine ⟨t :: texts', List.cons_ne_nil _ _, ?_, .cons hentry hentries⟩
      rw [joinWith_cons hlast, joinWith_cons hne', List.append_assoc, hjoin]

/-- White space around a mapping belongs to its first and its last entry. -/
theorem Derives.padded {t u : Text} {es : List Entry} (h : Derives t es) (hu : Padded t u) :
    Derives u es := by
  obtain ⟨before, after, rfl, hb, ha⟩ := hu
  obtain ⟨texts, hne, rfl, hentries⟩ := h.entries
  obtain ⟨texts', hne', hjoin, hentries'⟩ := exists_append_margin hne hentries ha
  rw [List.append_assoc, hjoin]
  cases hentries' with
  | nil => exact absurd rfl hne'
  | @cons first _ others _ hentry hrest =>
    have hpadded := hentry.padded ((padded_self first).append_left hb)
    refine ⟨⟨(before ++ first) :: others, List.cons_ne_nil _ _, ?_, .cons hpadded hrest⟩, h.distinct⟩
    by_cases hlast : others = []
    · rw [hlast, joinWith_singleton, joinWith_singleton]
    · rw [joinWith_cons hlast, joinWith_cons hlast]
      simp only [List.append_assoc]

/-- What the grammar derives is read, and nothing is reported. -/
theorem read_of_derives {t : Text} {es : List Entry} (h : Derives t es) (path : Text) :
    (read path t).errors = [] ∧ (read path t).mapping.items = es := by
  have hblank := strip_ne_nil_of_derives h
  obtain ⟨texts, hne, rfl, hentries⟩ := h.entries
  have hclean : Reading.Clean .empty (texts.map strip) es :=
    ⟨List.forall₂_map_left_iff.2 (hentries.imp fun _ _ he => Entry.parse_of_derives he), h.distinct⟩
  obtain ⟨hitems, herrors⟩ := Reading.foldl_of_clean hclean
  rw [read, if_neg hblank, entryTexts, splitOutside_of_derives hne hentries, herrors, hitems]
  exact ⟨rfl, List.nil_append es⟩

/-- What is read without a defect is derived by the grammar. -/
theorem derives_of_read {path t : Text} (h : (read path t).errors = []) :
    Derives t (read path t).mapping.items := by
  rw [read] at h ⊢
  split at h
  · cases h
  · next hblank =>
    obtain ⟨es, hclean⟩ := Reading.clean_of_foldl h
    have hitems := (Reading.foldl_of_clean hclean).1
    rw [if_neg hblank, hitems]
    refine ⟨⟨Quoted.splitOutside ',' t, Quoted.splitOutside_ne_nil ',' t,
      (Quoted.joinWith_splitOutside (by decide) t).symm, ?_⟩, hclean.distinct⟩
    exact forall₂_derives (fun p hp => Quoted.noneOutside_of_mem_splitOutside (by decide) hp)
      (List.forall₂_map_left_iff.1 hclean.parsed)

/-- **A text is read without a defect exactly if the grammar derives it**, and what is
read are then exactly the entries that it derives, in their order. -/
theorem read_iff_derives (path t : Text) :
    ((read path t).errors = [] ↔ ∃ es, Derives t es) ∧
      ∀ es, Derives t es → (read path t).mapping.items = es :=
  ⟨⟨fun h => ⟨_, derives_of_read h⟩, fun ⟨_, h⟩ => (read_of_derives h path).1⟩,
    fun _ h => (read_of_derives h path).2⟩

/-- Separators inside quotes belong to the name. -/
example : ((read [] " \"a,=\"\"b\" = value.x.y ,c=key".toList).mapping.items.map Entry.render) =
    ["\"a,=\"\"b\"=value.x.y".toList, "c=key.__self".toList] := by
  decide

end Mapping
end TopicTables
