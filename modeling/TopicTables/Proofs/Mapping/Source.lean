import TopicTables.Mapping.Source
import TopicTables.Proofs.Identifier

/-! How sources are written.

A source is a part by itself, a part with one quoted name, or a part with bare segments
between dots, and nothing else is read as one (`parse_eq_ok_iff`). The sources that some
text spells are the *readable* ones (`Spelling.readable`), and the rendered form of a
readable source is one of its spellings (`spelling_render`). -/
namespace TopicTables

/-- A segment that is written without quotes. -/
def IsBare (t : Text) : Prop :=
  t ≠ [] ∧ ∀ c ∈ t, isBlank c = false ∧ c ≠ '"' ∧ c ≠ '.' ∧ c ≠ '=' ∧ c ≠ ','

theorem needsQuotes_eq_false_iff (c : Char) : Source.needsQuotes c = false ↔
    isBlank c = false ∧ c ≠ '"' ∧ c ≠ '.' ∧ c ≠ '=' ∧ c ≠ ',' := by
  simp [Source.needsQuotes, and_assoc]

theorem isPlainSegment_iff (t : Text) : Source.isPlainSegment t = true ↔ IsBare t := by
  simp [Source.isPlainSegment, IsBare, needsQuotes_eq_false_iff]

theorem any_needsQuotes_of_isBare {t : Text} (h : IsBare t) : t.any Source.needsQuotes = false := by
  rw [List.any_eq_false]
  intro c hc
  rw [(needsQuotes_eq_false_iff c).2 (h.2 c hc)]
  decide

namespace Source

/-- The sources that can be written: one name of any characters, or bare segments. -/
def Readable (s : Source) : Prop :=
  (∃ name, name ≠ [] ∧ s.segments = [name]) ∨ (s.segments ≠ [] ∧ ∀ t ∈ s.segments, IsBare t)

/-- The spellings of a source. -/
inductive Spelling : Text → Source → Prop where
  | whole (part : RecordPart) : Spelling part.name (whole part)
  | quoted (part : RecordPart) {name : Text} : name ≠ [] →
      Spelling (part.name ++ '.' :: Quoted.enclose (Quoted.double name)) ⟨part, [name]⟩
  | bare (part : RecordPart) {segments : List Text} : segments ≠ [] → (∀ t ∈ segments, IsBare t) →
      Spelling (part.name ++ '.' :: joinWith ['.'] segments) ⟨part, segments⟩

/-! ### Reading -/

theorem splitPart?_append (part : RecordPart) (rest : Text) :
    splitPart? (part.name ++ rest) = some (part, rest) := by
  cases part <;> rfl

theorem eq_append_of_splitPart? {t rest : Text} {part : RecordPart}
    (h : splitPart? t = some (part, rest)) : t = part.name ++ rest := by
  rw [splitPart?.eq_def] at h
  split at h <;> cases h <;> rfl

theorem head?_joinWith_ne_quote {segments : List Text} (h : ∀ t ∈ segments, IsBare t) :
    (joinWith ['.'] segments).head? ≠ some '"' := by
  cases segments with
  | nil => exact fun he => by cases he
  | cons t ts =>
    obtain ⟨hne, hbare⟩ := h t List.mem_cons_self
    obtain ⟨c, t, rfl⟩ := List.exists_cons_of_ne_nil hne
    have hc : (c :: t : Text).head? ≠ some '"' := fun he =>
      (hbare c List.mem_cons_self).2.1 (Option.some.inj he)
    by_cases hts : ts = []
    · rw [hts, joinWith_singleton]
      exact hc
    · rw [joinWith_cons hts, List.append_assoc, List.cons_append]
      exact hc

theorem splitOn_joinWith {segments : List Text} (hne : segments ≠ [])
    (h : ∀ t ∈ segments, IsBare t) : (joinWith ['.'] segments).splitOn '.' = segments :=
  List.splitOn_intercalate '.' (fun t ht hdot => ((h t ht).2 '.' hdot).2.2.1 rfl) hne

theorem parsePath_eq_ok {source path : Text} {part : RecordPart} {s : Source}
    (h : parsePath source part path = .ok s) : Spelling (part.name ++ '.' :: path) s := by
  rw [parsePath] at h
  split at h
  · next hquote =>
    split at h
    · next name hname =>
      cases h
      cases Identifier.parse_eq_ok_iff.1 hname with
      | quoted hne => exact .quoted part hne
      | unquoted _ hhead => exact absurd hquote hhead
    · cases h
  · split at h
    · next hall =>
      cases h
      have hspelling := Spelling.bare part (List.splitOn_ne_nil '.' path) fun t ht =>
        (isPlainSegment_iff t).1 (List.all_eq_true.1 hall t ht)
      rwa [joinWith, List.intercalate_splitOn] at hspelling
    · cases h

/-- **A source is read from its spellings and from nothing else.** -/
theorem parse_eq_ok_iff {t : Text} {s : Source} : parse t = .ok s ↔ Spelling t s := by
  constructor
  · intro h
    rw [parse] at h
    split at h
    · next part hpart =>
      cases h
      rw [eq_append_of_splitPart? hpart, List.append_nil]
      exact .whole part
    · next part path hpart =>
      rw [eq_append_of_splitPart? hpart]
      exact parsePath_eq_ok h
    · cases h
  · intro h
    cases h with
    | whole part => cases part <;> rfl
    | quoted part hne =>
      have hhead : ∀ body, (Quoted.enclose body).head? = some '"' := fun _ => rfl
      rw [parse, splitPart?_append]
      show parsePath _ _ _ = _
      rw [parsePath, if_pos (hhead _), Identifier.parse_enclose hne]
      rfl
    | bare part hne hbare =>
      rw [parse, splitPart?_append]
      show parsePath _ _ _ = _
      rw [parsePath, if_neg (head?_joinWith_ne_quote hbare), splitOn_joinWith hne hbare, if_pos]
      exact List.all_eq_true.2 fun t ht => (isPlainSegment_iff t).2 (hbare t ht)

/-! ### Readable sources -/

/-- Whatever the text, the source that is read from it can be written. -/
theorem Spelling.readable {t : Text} {s : Source} (h : Spelling t s) : s.Readable := by
  cases h with
  | whole part => exact .inl ⟨wholeField, by decide, rfl⟩
  | quoted part hne => exact .inl ⟨_, hne, rfl⟩
  | bare part hne hbare => exact .inr ⟨hne, hbare⟩

theorem Readable.segments {s : Source} (h : s.Readable) :
    s.segments ≠ [] ∧ ∀ t ∈ s.segments, t ≠ [] := by
  rcases h with ⟨name, hne, hsegments⟩ | ⟨hne, hbare⟩
  · rw [hsegments]
    exact ⟨List.cons_ne_nil _ _, by simpa using hne⟩
  · exact ⟨hne, fun t ht => (hbare t ht).1⟩

theorem renderSegment_of_isBare {t : Text} (h : IsBare t) : renderSegment t = t := by
  rw [renderSegment, any_needsQuotes_of_isBare h, if_neg Bool.false_ne_true]

theorem render_eq {s : Source} (h : s.segments ≠ []) :
    s.render = s.part.name ++ '.' :: joinWith ['.'] (s.segments.map renderSegment) := by
  rw [render, joinWith_cons (by simpa using h), List.append_assoc, List.singleton_append]

/-- **What is rendered for a readable source is one of its spellings.** -/
theorem spelling_render {s : Source} (h : s.Readable) : Spelling s.render s := by
  obtain ⟨part, segments⟩ := s
  rcases h with ⟨name, hne, hsegments⟩ | ⟨hne, hbare⟩
  · obtain rfl : segments = [name] := hsegments
    rw [render_eq (List.cons_ne_nil name []), List.map_cons, List.map_nil, joinWith_singleton,
      renderSegment]
    split
    · exact .quoted part hne
    · next hany =>
      have hbare : IsBare name := (isPlainSegment_iff name).1 (by simp [isPlainSegment, hne, hany])
      have hspelling := Spelling.bare part (List.cons_ne_nil name []) (by simpa using hbare)
      rwa [joinWith_singleton] at hspelling
  · have hmap : segments.map renderSegment = segments := by
      rw [List.map_congr_left fun t ht => renderSegment_of_isBare (hbare t ht), List.map_id']
    rw [render_eq hne, hmap]
    exact .bare part hne hbare

end Source
end TopicTables
