import TopicTables.Proofs.Mapping.Account
import TopicTables.Proofs.Mapping.Side

/-! Reading on behind an unclosed quote.

One entry whose quotes do not pair up puts every comma behind it inside quotes, as long as
the quotes of the later entries pair up. So the rest of the text is one piece that is left
open, and such a piece is cut at every comma (`splitOutside_open`): the entries come out
as they were written. The open entry then is one error and names no column, so nothing is
lost of the others (`read_beside_open`). -/
namespace TopicTables

namespace Quoted

/-- A text that is left open is cut at every separator if none of them stands outside its
quotes. -/
theorem splitOutside_of_open {separator : Char} {t : Text} (ht : isClosed t = false)
    (h : NoneOutside separator t) : splitOutside separator t = t.splitOn separator := by
  rw [splitOutside, outsidePieces_of_inside h, List.flatMap_singleton, if_neg]
  simp [ht]

/-- An open text leaves itself and the closed ones behind it open, and puts all that
separates them inside quotes. -/
theorem isOpen_joinWith {separator : Char} (hs : separator ≠ '"') {t : Text} {ts : List Text}
    (ht : isClosed t = false) (hmem : separator ∉ t)
    (hts : ∀ u ∈ ts, isClosed u = true ∧ separator ∉ u) :
    isClosed (joinWith [separator] (t :: ts)) = false ∧
      NoneOutside separator (joinWith [separator] (t :: ts)) := by
  by_cases hne : ts = []
  · rw [hne, joinWith_singleton]
    exact ⟨ht, inside_of_not_mem hmem⟩
  · have hclosed := isClosed_joinWith hs fun u hu => (hts u hu).1
    have hinside : NoneInside separator (joinWith [separator] ts) := by
      apply (noneInside_joinWith hs hne fun u hu =>
        ⟨(hts u hu).1, inside_of_not_mem (hts u hu).2⟩).2
      rw [List.mem_flatten]
      rintro ⟨u, hu, hc⟩
      exact (hts u hu).2 hc
    have hrest : NoneInside separator (separator :: joinWith [separator] ts) :=
      (noneInside_append_cons hs (a := []) rfl _).2 ⟨inside_of_not_mem List.not_mem_nil, hinside⟩
    rw [joinWith_cons hne, List.append_assoc, List.singleton_append]
    constructor
    · rw [isClosed_append, isClosed_cons, ht, hclosed, beq_eq_false_iff_ne.2 hs]
      rfl
    · apply (inside_of_not_mem hmem).concat
      rw [ht]
      exact hrest

/-- **An open text does not swallow what is written behind it.** -/
theorem splitOutside_open {separator : Char} (hs : separator ≠ '"') {before after : List Text}
    {t : Text} (hbefore : ∀ u ∈ before, isClosed u = true ∧ NoneOutside separator u)
    (ht : isClosed t = false) (hmem : separator ∉ t)
    (hafter : ∀ u ∈ after, isClosed u = true ∧ separator ∉ u) :
    splitOutside separator (joinWith [separator] (before ++ t :: after)) = before ++ t :: after := by
  obtain ⟨hopen, hnone⟩ := isOpen_joinWith hs ht hmem hafter
  have hall : ∀ u ∈ t :: after, separator ∉ u :=
    List.forall_mem_cons.2 ⟨hmem, fun u hu => (hafter u hu).2⟩
  rw [splitOutside_joinWith_append hs (List.cons_ne_nil t after) hbefore,
    splitOutside_of_open hopen hnone, joinWith,
    List.splitOn_intercalate separator hall (List.cons_ne_nil t after)]

end Quoted

/-! ### The open entry -/

theorem Entry.parseSides_ne_unterminated {entry column field u : Text} :
    parseSides entry column field ≠ .error (.unterminated u) := by
  intro h
  rw [parseSides] at h
  repeat' split at h
  all_goals cases h

/-- The one thing that is wrong with an entry that is left open. -/
theorem Entry.parse_eq_unterminated_iff {t u : Text} :
    parse t = .error (.unterminated u) ↔ Quoted.isClosed t = false ∧ u = t := by
  constructor
  · intro h
    rw [parse] at h
    split at h
    · cases h
    · split at h
      · next hopen =>
        cases h
        exact ⟨by simpa using hopen, rfl⟩
      · split at h
        · exact absurd h parseSides_ne_unterminated
        · cases h
        · cases h
  · intro h
    obtain ⟨hopen, rfl⟩ := h
    have hne : u ≠ [] := by
      rintro rfl
      cases hopen
    rw [parse, if_neg hne, if_pos (by simp [hopen])]

theorem Entry.parse_strip_of_open {t : Text} (h : Quoted.isClosed t = false) :
    parse (strip t) = .error (.unterminated (strip t)) := by
  apply parse_eq_unterminated_iff.2
  exact ⟨(padded_strip t).isClosed_eq.symm.trans h, rfl⟩

namespace Mapping

/-- One entry among others is left open: the entries in front of it have no comma outside
their quotes, and it and those behind it have no comma at all. -/
structure LeftOpen (before : List Text) (t : Text) (after : List Text) : Prop where
  front : ∀ u ∈ before, Quoted.isClosed u = true ∧ Quoted.NoneOutside ',' u
  isOpen : Quoted.isClosed t = false
  noComma : ',' ∉ t
  back : ∀ u ∈ after, Quoted.isClosed u = true ∧ ',' ∉ u

/-- What a text with an open entry says: what the others say, and one error between. -/
structure ReadBeside (path : Text) (before : List Text) (t : Text) (after : List Text) : Prop where
  /-- The open entry is one error, where it stands. -/
  errors : (read path (joinWith [','] (before ++ t :: after))).errors =
    defects [] (before.map strip) ++
      .entry (.unterminated (strip t)) :: defects (before.map strip) (after.map strip)
  /-- No other entry is reported to be open. -/
  once : ∀ u, .entry (.unterminated u) ∉
    defects [] (before.map strip) ++ defects (before.map strip) (after.map strip)
  /-- Without it, the text maps the same columns and has the other errors. -/
  others : strip (joinWith [','] (before ++ after)) ≠ [] →
    (read path (joinWith [','] (before ++ after))).mapping =
        (read path (joinWith [','] (before ++ t :: after))).mapping ∧
      (read path (joinWith [','] (before ++ after))).errors =
        defects [] (before.map strip) ++ defects (before.map strip) (after.map strip)

section Open
variable {before after : List Text} {t : Text}

/-- Closed entries are not reported to be open. -/
theorem unterminated_not_mem_defects {entries : List Text}
    (h : ∀ u ∈ entries, Quoted.isClosed u = true) (earlier : List Text) (u : Text) :
    .entry (.unterminated u) ∉ defects earlier (entries.map strip) := by
  intro hmem
  obtain ⟨front, v, hv, hdefect⟩ := mem_defects hmem
  obtain ⟨w, hw, rfl⟩ := List.mem_map.1 hv
  have hparse : Entry.parse (strip w) = .error (.unterminated u) := by
    rw [defect?] at hdefect
    split at hdefect
    · next e he => rw [he, MappingError.entry.inj (Option.some.inj hdefect)]
    · split at hdefect <;> cases hdefect
  obtain ⟨hopen, -⟩ := Entry.parse_eq_unterminated_iff.1 hparse
  rw [← (padded_strip w).isClosed_eq, h w hw] at hopen
  cases hopen

namespace LeftOpen

theorem parse_strip (h : LeftOpen before t after) :
    Entry.parse (strip t) = .error (.unterminated (strip t)) :=
  Entry.parse_strip_of_open h.isOpen

theorem entryTexts_eq (h : LeftOpen before t after) :
    entryTexts (joinWith [','] (before ++ t :: after)) =
      before.map strip ++ strip t :: after.map strip := by
  rw [entryTexts, Quoted.splitOutside_open (by decide) h.front h.isOpen h.noComma h.back,
    List.map_append, List.map_cons]

theorem strip_ne_nil (h : LeftOpen before t after) :
    strip (joinWith [','] (before ++ t :: after)) ≠ [] := by
  have hquote : '"' ∈ t := by
    by_contra hmem
    have hopen := h.isOpen
    rw [Quoted.isClosed_of_not_mem hmem] at hopen
    cases hopen
  apply strip_ne_nil_of_mem (c := '"')
  · exact mem_joinWith_of_mem (List.mem_append_right before List.mem_cons_self) hquote
  · decide

/-- The other entries are closed, so they are the entries of a text by themselves. -/
theorem entryTexts_others (h : LeftOpen before t after) (hne : before ++ after ≠ []) :
    entryTexts (joinWith [','] (before ++ after)) = before.map strip ++ after.map strip := by
  have hall : ∀ u ∈ before ++ after, Quoted.isClosed u = true ∧ Quoted.NoneOutside ',' u :=
    List.forall_mem_append.2 ⟨h.front, fun u hu =>
      ⟨(h.back u hu).1, Quoted.inside_of_not_mem (h.back u hu).2⟩⟩
  rw [entryTexts, Quoted.splitOutside_joinWith (by decide) hne hall, List.map_append]

end LeftOpen

/-- **An entry that is left open is one error, and the others are read as they are without
it.** -/
theorem read_beside_open (h : LeftOpen before t after) (path : Text) :
    ReadBeside path before t after := by
  have hdefect : ∀ earlier, defect? earlier (strip t) = some (.entry (.unterminated (strip t))) := by
    intro earlier
    rw [defect?, h.parse_strip]
  have hback : defects (before.map strip ++ [strip t]) (after.map strip) =
      defects (before.map strip) (after.map strip) := by
    apply defects_congr
    intro column
    simp [Entry.column?_of_error h.parse_strip]
  refine ⟨?_, fun u hmem => ?_, fun hblank => ?_⟩
  · rw [errors_read h.strip_ne_nil, h.entryTexts_eq, defects_append, defects, hdefect,
      List.nil_append, hback]
    rfl
  · rcases List.mem_append.1 hmem with hmem | hmem
    · exact unterminated_not_mem_defects (fun v hv => (h.front v hv).1) _ u hmem
    · exact unterminated_not_mem_defects (fun v hv => (h.back v hv).1) _ u hmem
  · have hne : before ++ after ≠ [] := fun hnil => hblank (hnil ▸ rfl)
    constructor
    · rw [read_of_strip_ne_nil hblank, read_of_strip_ne_nil h.strip_ne_nil, h.entryTexts_others hne,
        h.entryTexts_eq, List.foldl_append, List.foldl_append, List.foldl_cons]
      -- The open entry reports something and leaves the columns as they are.
      apply Reading.mapping_foldl_congr
      rw [Reading.next_of_error h.parse_strip]
    · rw [errors_read hblank, h.entryTexts_others hne, defects_append, List.nil_append]

/-- A quote is missing between a column with a comma in its name and entries with quotes of
their own, one of them empty and one that repeats a column. -/
theorem read_beside_open_five : ∃ (before : List Text) (t : Text) (after : List Text),
    LeftOpen before t after ∧ ReadBeside [] before t after ∧
      joinWith [','] (before ++ t :: after) =
        "\"a,b\"=key, c=value.\"x ,\"d\"=key.\"y\",,\"d\"=value".toList ∧
      strip (joinWith [','] (before ++ after)) ≠ [] ∧
      (read [] (joinWith [','] (before ++ after))).mapping =
        (read [] (joinWith [','] (before ++ t :: after))).mapping ∧
      (read [] (joinWith [','] (before ++ t :: after))).errors.map MappingError.message =
        ["Mapping entry 'c=value.\"x' has an unterminated double quote.".toList,
          "Empty mapping entry; remove the extra ','.".toList,
          "Mapping references column d more than once.".toList] := by
  have hpiece : Quoted.NoneOutside ',' "\"a,b\"=key".toList :=
    Quoted.noneOutside_of_mem_splitOutside (t := "\"a,b\"=key".toList) (by decide) (by decide)
  have hopen : LeftOpen ["\"a,b\"=key".toList] " c=value.\"x ".toList
      ["\"d\"=key.\"y\"".toList, [], "\"d\"=value".toList] :=
    ⟨List.forall_mem_singleton.2 ⟨by decide, hpiece⟩, by decide, by decide, by decide⟩
  have hread := read_beside_open hopen []
  have hblank : strip (joinWith [','] (["\"a,b\"=key".toList] ++
      ["\"d\"=key.\"y\"".toList, [], "\"d\"=value".toList])) ≠ [] := by decide
  exact ⟨_, _, _, hopen, hread, by decide, hblank, (hread.others hblank).1, by decide⟩

end Open

end Mapping
end TopicTables
