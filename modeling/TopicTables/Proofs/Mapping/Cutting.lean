import TopicTables.Proofs.Mapping.Recovery

/-! Where a text is cut.

Cutting loses nothing but the separators. The parts of a closed text are the only closed
texts without a separator outside quotes that join to it (`eq_splitOutside_iff`). An open
text is cut like that up to its last separator outside quotes, if there is one, and what
is left behind it is cut at every separator (`splitOutside_of_lastOutside`). The quotes of
the parts are those of the text, so the open parts of an open text are odd in number
(`isClosed_joinWith_eq`), and a mapping that is left open reports one of them
(`exists_reported_of_open`). -/
namespace TopicTables

namespace Quoted
variable {separator : Char}

/-! ### Closed texts -/

/-- The parts of a closed text, told without cutting it. -/
theorem eq_splitOutside_iff (hs : separator ≠ '"') {t : Text} (ht : isClosed t = true)
    {parts : List Text} : parts = splitOutside separator t ↔
      parts ≠ [] ∧ joinWith [separator] parts = t ∧
        ∀ p ∈ parts, isClosed p = true ∧ NoneOutside separator p := by
  constructor
  · rintro rfl
    exact ⟨splitOutside_ne_nil separator t, joinWith_splitOutside hs t, fun p hp =>
      ⟨isClosed_of_mem_splitOutside hs ht hp, noneOutside_of_mem_splitOutside hs hp⟩⟩
  · rintro ⟨hne, rfl, hparts⟩
    exact (splitOutside_joinWith hs hne hparts).symm

/-! ### Open texts -/

/-- The last separator of a text that stands outside quotes, with what is before and behind
it. -/
structure LastOutside (separator : Char) (t before after : Text) : Prop where
  split : t = before ++ separator :: after
  outside : isClosed before = true
  last : ∀ between behind, after = between ++ separator :: behind →
    isClosed (before ++ separator :: between) = false

/-- A separator outside quotes is the last one if there is none behind it. -/
theorem lastOutside_iff (hs : separator ≠ '"') {before after : Text} (h : isClosed before = true) :
    LastOutside separator (before ++ separator :: after) before after ↔
      NoneOutside separator after := by
  have hplace : ∀ between, isClosed (before ++ separator :: between) = isClosed between :=
    isClosed_append_cons hs h
  constructor
  · intro hlast between behind hafter
    rw [← hplace]
    exact hlast.last between behind hafter
  · intro hnone
    refine ⟨rfl, h, fun between behind hafter => ?_⟩
    rw [hplace]
    exact hnone between behind hafter

/-- From a separator outside quotes, the last one is found by going on to the next. -/
theorem exists_lastOutside_of_outside (hs : separator ≠ '"') {before after : Text}
    (h : isClosed before = true) :
    ∃ front back, LastOutside separator (before ++ separator :: after) front back := by
  by_cases hlast : NoneOutside separator after
  · exact ⟨before, after, (lastOutside_iff hs h).2 hlast⟩
  · obtain ⟨between, behind, rfl, hbetween⟩ := not_noneOutside_iff.1 hlast
    have hfront : isClosed (before ++ separator :: between) = true := by
      rw [isClosed_append_cons hs h, hbetween]
    have hnext : ∃ front back, LastOutside separator
        (before ++ separator :: between ++ separator :: behind) front back :=
      exists_lastOutside_of_outside hs hfront
    rwa [List.append_assoc, List.cons_append] at hnext
termination_by after.length

theorem noneOutside_or_exists_lastOutside (hs : separator ≠ '"') (t : Text) :
    NoneOutside separator t ∨ ∃ before after, LastOutside separator t before after := by
  by_cases h : NoneOutside separator t
  · exact .inl h
  · obtain ⟨before, after, rfl, hbefore⟩ := not_noneOutside_iff.1 h
    exact .inr (exists_lastOutside_of_outside hs hbefore)

/-- **An open text is cut at every separator behind its last one outside quotes.** -/
theorem splitOutside_of_lastOutside (hs : separator ≠ '"') {t before after : Text}
    (ht : isClosed t = false) (h : LastOutside separator t before after) :
    splitOutside separator t = splitOutside separator before ++ after.splitOn separator := by
  obtain rfl := h.split
  have hafter : isClosed after = false := by
    rw [← isClosed_append_cons hs h.outside after, ht]
  rw [splitOutside_append hs h.outside,
    splitOutside_of_open hafter ((lastOutside_iff hs h.outside).1 h)]

/-! ### Open parts -/

theorem countP_open_of_open (hs : separator ≠ '"') {t : Text} (ht : isClosed t = false) :
    ((splitOutside separator t).countP fun p => !isClosed p) % 2 = 1 := by
  have h := isClosed_joinWith_eq hs (splitOutside separator t)
  rw [joinWith_splitOutside hs, ht, eq_comm, beq_eq_false_iff_ne] at h
  exact Nat.mod_two_ne_zero.1 h

end Quoted

/-! ### The report on an open mapping -/

namespace Mapping

/-- A part that is left open is reported where it stands. -/
theorem unterminated_mem_errors {t p : Text} (hp : p ∈ Quoted.splitOutside ',' t)
    (hopen : Quoted.isClosed p = false) (ht : strip t ≠ []) (path : Text) :
    .entry (.unterminated (strip p)) ∈ (read path t).errors := by
  rw [errors_read ht]
  exact mem_defects_of_error (List.mem_map_of_mem hp) (Entry.parse_strip_of_open hopen) []

theorem exists_reported_of_open {t : Text} (ht : Quoted.isClosed t = false) (path : Text) :
    ∃ p ∈ Quoted.splitOutside ',' t, Quoted.isClosed p = false ∧
      .entry (.unterminated (strip p)) ∈ (read path t).errors := by
  have hcomma : ',' ≠ '"' := by decide
  have hodd := Quoted.countP_open_of_open hcomma ht
  obtain ⟨p, hp, hopen⟩ : ∃ p ∈ Quoted.splitOutside ',' t, (!Quoted.isClosed p) = true := by
    apply List.countP_pos_iff.1
    omega
  rw [Bool.not_eq_true'] at hopen
  exact ⟨p, hp, hopen, unterminated_mem_errors hp hopen (strip_ne_nil_of_open ht) path⟩

end Mapping

/-! ### Cutting -/

namespace Quoted

/-- What the parts are that a text is cut into. -/
structure CutExactly (separator : Char) (t : Text) (parts : List Text) : Prop where
  /-- Nothing but the separators is lost. -/
  joined : joinWith [separator] parts = t
  /-- The parts of a closed text are the only closed texts that join to it and have no
  separator outside quotes. -/
  closed : isClosed t = true → ∀ ps, ps = parts ↔ ps ≠ [] ∧ joinWith [separator] ps = t ∧
    ∀ p ∈ ps, isClosed p = true ∧ NoneOutside separator p
  /-- An open text is cut as a closed one up to its last separator outside quotes, if there
  is one, and at every separator from there on. -/
  tail : isClosed t = false →
    NoneOutside separator t ∧ parts = t.splitOn separator ∨
      ∃ before after, LastOutside separator t before after ∧
        parts = splitOutside separator before ++ after.splitOn separator
  /-- An odd number of parts of an open text is open. -/
  odd : isClosed t = false → (parts.countP fun p => !isClosed p) % 2 = 1

/-- **A text is cut at its separators outside quotes**, and at all of them where it is left
open; an entry of a mapping that is left open is then reported. -/
theorem splitOutside_exact {separator : Char} (hs : separator ≠ '"') (t : Text) :
    CutExactly separator t (splitOutside separator t) ∧
      (isClosed t = false → ∀ path, ∃ p ∈ splitOutside ',' t, isClosed p = false ∧
        .entry (.unterminated (strip p)) ∈ (Mapping.read path t).errors) := by
  refine ⟨⟨joinWith_splitOutside hs t, fun ht ps => eq_splitOutside_iff hs ht, fun ht => ?_,
    countP_open_of_open hs⟩, Mapping.exists_reported_of_open⟩
  rcases noneOutside_or_exists_lastOutside hs t with hnone | ⟨before, after, hlast⟩
  · exact .inl ⟨hnone, splitOutside_of_open ht hnone⟩
  · exact .inr ⟨before, after, hlast, splitOutside_of_lastOutside hs ht hlast⟩

/-- A closed text with a doubled quote and a comma inside quotes, and an open one that is
closed up to its second comma. -/
theorem splitOutside_exact_two : ∃ t u : Text,
    isClosed t = true ∧ isClosed u = false ∧
      splitOutside ',' t = ["a".toList, "\"b,\"\"c\"".toList, []] ∧
      splitOutside ',' u = ["\"x,y\"=key".toList, "b\"c".toList, "\"\"".toList, "d".toList] ∧
      CutExactly ',' t (splitOutside ',' t) ∧ CutExactly ',' u (splitOutside ',' u) ∧
      (∀ ps, ps = splitOutside ',' t ↔ ps ≠ [] ∧ joinWith [','] ps = t ∧
        ∀ p ∈ ps, isClosed p = true ∧ NoneOutside ',' p) ∧
      LastOutside ',' u "\"x,y\"=key".toList "b\"c,\"\",d".toList ∧
      (NoneOutside ',' u ∧ splitOutside ',' u = u.splitOn ',' ∨
        ∃ before after, LastOutside ',' u before after ∧
          splitOutside ',' u = splitOutside ',' before ++ after.splitOn ',') ∧
      ((splitOutside ',' u).countP fun p => !isClosed p) % 2 = 1 ∧
      (∃ p ∈ splitOutside ',' u, isClosed p = false ∧
        .entry (.unterminated (strip p)) ∈ (Mapping.read [] u).errors) := by
  have hs : ',' ≠ '"' := by decide
  have hclosed : isClosed "a,\"b,\"\"c\",".toList = true := by decide
  have hopen : isClosed "\"x,y\"=key,b\"c,\"\",d".toList = false := by decide
  have hnone : NoneOutside ',' "b\"c,\"\",d".toList :=
    (outsidePieces_eq_singleton_iff hs).1 (by decide)
  have hbefore : isClosed "\"x,y\"=key".toList = true := by decide
  obtain ⟨hcut, -⟩ := splitOutside_exact hs "a,\"b,\"\"c\",".toList
  obtain ⟨hcut', hreported⟩ := splitOutside_exact hs "\"x,y\"=key,b\"c,\"\",d".toList
  exact ⟨_, _, hclosed, hopen, by decide, by decide, hcut, hcut', hcut.closed hclosed,
    (lastOutside_iff hs hbefore).2 hnone, hcut'.tail hopen, hcut'.odd hopen, hreported hopen []⟩

end Quoted
end TopicTables
