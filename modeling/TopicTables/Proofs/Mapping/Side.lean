import TopicTables.Proofs.Mapping.Source

/-! The sides of an entry.

A column and a source stand on the two sides of an equal sign, and entries stand between
commas. What can stand there without being cut apart or trimmed is a *side*: shown names
and spelled sources are sides (`isSide_pretty`, `Source.Spelling.isSide`), and white
space around a side opens no quotes and brings no separator (`IsSide.padded`). -/
namespace TopicTables

/-- A text that may stand beside a separator: its quotes pair up, it has no comma or
equal sign outside them, and no white space at its ends. -/
structure IsSide (t : Text) : Prop where
  closed : Quoted.isClosed t = true
  noComma : Quoted.NoneOutside ',' t
  noAssignment : Quoted.NoneOutside '=' t
  trimmed : Trimmed t

theorem isSide_of_forall {t : Text}
    (h : ∀ c ∈ t, isBlank c = false ∧ c ≠ '"' ∧ c ≠ '=' ∧ c ≠ ',') : IsSide t where
  closed := Quoted.isClosed_of_not_mem fun hc => (h _ hc).2.1 rfl
  noComma := Quoted.inside_of_not_mem fun hc => (h _ hc).2.2.2 rfl
  noAssignment := Quoted.inside_of_not_mem fun hc => (h _ hc).2.2.1 rfl
  trimmed := trimmed_of_forall fun c hc => (h c hc).1

theorem isSide_enclose_double (t : Text) : IsSide (Quoted.enclose (Quoted.double t)) where
  closed := Quoted.isClosed_enclose_double t
  noComma := Quoted.noneOutside_enclose_double (by decide) t
  noAssignment := Quoted.noneOutside_enclose_double (by decide) t
  trimmed := Quoted.trimmed_enclose _

theorem isSide_pretty (i : Identifier) : IsSide i.pretty := by
  rw [Identifier.pretty]
  split
  · next hplain =>
    refine isSide_of_forall fun c hc => ?_
    obtain ⟨-, -, hblank, hnot⟩ :=
      Identifier.isPlainChar_spec (Identifier.forall_of_isPlain hplain c hc)
    simp only [List.mem_cons, List.not_mem_nil, or_false, not_or] at hnot
    exact ⟨hblank, hnot.1, hnot.2.2.2, hnot.2.2.1⟩
  · exact isSide_enclose_double i.internal

/-- A side may stand behind characters that are neither quotes nor separators. -/
theorem IsSide.append {a b : Text}
    (ha : ∀ c ∈ a, isBlank c = false ∧ c ≠ '"' ∧ c ≠ '=' ∧ c ≠ ',') (hane : a ≠ [])
    (hb : IsSide b) (hbne : b ≠ []) : IsSide (a ++ b) := by
  have hside := isSide_of_forall ha
  refine ⟨?_, hside.noComma.append hside.closed hb.noComma,
    hside.noAssignment.append hside.closed hb.noAssignment, ?_⟩
  · rw [Quoted.isClosed_append_left hside.closed, hb.closed]
  · have htrimmed := hside.trimmed.around hb.trimmed hane hbne []
    rwa [List.append_nil] at htrimmed

theorem name_forall (part : RecordPart) :
    ∀ c ∈ part.name ++ ['.'], isBlank c = false ∧ c ≠ '"' ∧ c ≠ '=' ∧ c ≠ ',' := by
  have hall : ((part.name ++ ['.']).all fun c =>
      !isBlank c && (c != '"' && (c != '=' && c != ','))) = true := by
    cases part <;> decide
  intro c hc
  simpa using List.all_eq_true.1 hall c hc

theorem Source.Spelling.ne_nil {t : Text} {s : Source} (h : Spelling t s) : t ≠ [] := by
  cases h with
  | whole part => cases part <;> decide
  | quoted part _ => exact List.append_ne_nil_of_right_ne_nil _ (List.cons_ne_nil _ _)
  | bare part _ _ => exact List.append_ne_nil_of_right_ne_nil _ (List.cons_ne_nil _ _)

theorem Source.Spelling.isSide {t : Text} {s : Source} (h : Spelling t s) : IsSide t := by
  have hne : ∀ part : RecordPart, part.name ++ ['.'] ≠ [] := fun part => by simp
  cases h with
  | whole part =>
    exact isSide_of_forall fun c hc => name_forall part c (List.mem_append_left _ hc)
  | @quoted part name _ =>
    rw [← List.singleton_append, ← List.append_assoc]
    exact IsSide.append (name_forall part) (hne part) (isSide_enclose_double name)
      (List.cons_ne_nil _ _)
  | @bare part segments _ hbare =>
    rw [← List.singleton_append, ← List.append_assoc]
    refine isSide_of_forall fun c hc => ?_
    rcases List.mem_append.1 hc with hc | hc
    · exact name_forall part c hc
    · rcases mem_joinWith hc with hc | ⟨t, ht, hc⟩
      · rw [List.mem_singleton.1 hc]
        decide
      · obtain ⟨hblank, hquote, -, hassign, hcomma⟩ := (hbare t ht).2 c hc
        exact ⟨hblank, hquote, hassign, hcomma⟩

theorem IsMargin.isClosed {w : Text} (h : IsMargin w) : Quoted.isClosed w = true :=
  Quoted.isClosed_of_not_mem (h.not_mem (by decide))

/-- White space around a text neither opens nor closes quotes. -/
theorem Padded.isClosed_eq {core t : Text} (h : Padded core t) :
    Quoted.isClosed t = Quoted.isClosed core := by
  obtain ⟨before, after, rfl, hb, ha⟩ := h
  rw [List.append_assoc, Quoted.isClosed_append_left hb.isClosed, Quoted.isClosed_append,
    ha.isClosed, beq_true]

/-- A text that is left open is not blank. -/
theorem strip_ne_nil_of_open {t : Text} (h : Quoted.isClosed t = false) : strip t ≠ [] := by
  intro hnil
  rw [(padded_strip t).isClosed_eq, hnil] at h
  cases h

/-- White space around a side opens no quotes and brings no separator. -/
theorem IsSide.padded {core t : Text} (h : IsSide core) (ht : Padded core t) :
    Quoted.isClosed t = true ∧ Quoted.NoneOutside ',' t ∧ Quoted.NoneOutside '=' t := by
  have hclosed : Quoted.isClosed t = true := ht.isClosed_eq.trans h.closed
  obtain ⟨before, after, rfl, hb, ha⟩ := ht
  have hleft : Quoted.isClosed (before ++ core) = true := by
    rw [Quoted.isClosed_append_left hb.isClosed, h.closed]
  have hnone : ∀ {separator : Char}, isBlank separator = false →
      Quoted.NoneOutside separator core →
      Quoted.NoneOutside separator (before ++ core ++ after) := fun hs hcore =>
    Quoted.Inside.append hleft
      (Quoted.Inside.append hb.isClosed (Quoted.inside_of_not_mem (hb.not_mem hs)) hcore)
      (Quoted.inside_of_not_mem (ha.not_mem hs))
  exact ⟨hclosed, hnone (by decide) h.noComma, hnone (by decide) h.noAssignment⟩

/-- Taking the white space off does not change that either. -/
theorem isSide_strip {t : Text} (hclosed : Quoted.isClosed t = true)
    (hcomma : Quoted.NoneOutside ',' t) (hassign : Quoted.NoneOutside '=' t) :
    IsSide (strip t) := by
  have hcore : Quoted.isClosed (strip t) = true := (padded_strip t).isClosed_eq.symm.trans hclosed
  obtain ⟨before, after, ht, hb, -⟩ := padded_strip t
  rw [ht] at hcomma hassign
  exact ⟨hcore, hcomma.left.right hb.isClosed, hassign.left.right hb.isClosed, trimmed_strip t⟩

end TopicTables
