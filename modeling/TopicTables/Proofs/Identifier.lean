import TopicTables.Identifier
import TopicTables.Proofs.Text.Margin
import TopicTables.Proofs.Text.Pieces

/-! How names are written.

A name has exactly two kinds of spelling: some non-empty text between quotes with each
of its own quotes doubled, or any non-empty text that does not start with a quote
(`parse_eq_ok_iff`). The shown form of a name is one of them and reads back as the same
name (`spelling_pretty`). What is written between quotes is closed and keeps every
character but its quotes inside them. -/
namespace TopicTables

namespace Quoted

/-! ### Texts between quotes -/

theorem double_eq_nil_iff {t : Text} : double t = [] ↔ t = [] := by
  constructor
  · intro h
    have := undouble?_double t
    rw [h] at this
    exact (Option.some.inj this).symm
  · intro h
    rw [h]
    rfl

theorem double_injective : Function.Injective double := by
  intro s t h
  have hs := undouble?_double s
  rw [h, undouble?_double] at hs
  exact (Option.some.inj hs).symm

/-- Where quotes are left out only of texts without a quote, no two texts look alike. -/
theorem eq_of_enclosed_or_bare {s t : Text} {a b : Bool} (ha : a = false → '"' ∉ s)
    (hb : b = false → '"' ∉ t)
    (h : (if a then enclose (double s) else s) = if b then enclose (double t) else t) : s = t := by
  have hmem : ∀ body, '"' ∈ enclose body := fun body => List.mem_cons_self
  cases a <;> cases b
  · exact h
  · have hst : s = enclose (double t) := h
    exact absurd (hst ▸ hmem (double t)) (ha rfl)
  · have hst : enclose (double s) = t := h
    exact absurd (hst ▸ hmem (double s)) (hb rfl)
  · apply double_injective
    exact List.append_cancel_right (List.cons.inj h).2

theorem isClosed_double (t : Text) : isClosed (double t) = true := by
  induction t with
  | nil => rfl
  | cons c t ih =>
    rw [double_cons]
    split
    · rw [isClosed_append, ih]
      decide
    · next hc => rw [List.singleton_append, isClosed_cons, ih, beq_eq_false_iff_ne.2 hc]; rfl

/-- Behind an opening quote, every character of a doubled text but its quotes is inside
quotes. -/
theorem inside_double {separator : Char} (hs : separator ≠ '"') (t : Text) :
    Inside separator true (double t) := by
  induction t with
  | nil => exact fun before _ h => absurd h (by simp [double])
  | cons c t ih =>
    rw [double_cons]
    split
    · refine Inside.append (by decide) (fun before after h => ?_) ih
      have hmem : separator ∈ ['"', '"'] := h ▸ List.mem_append_right before List.mem_cons_self
      simp [hs] at hmem
    · next hc =>
      refine Inside.cons (fun _ => rfl) ?_
      rw [beq_eq_false_iff_ne.2 hc]
      exact ih

theorem isClosed_enclose_double (t : Text) : isClosed (enclose (double t)) = true := by
  rw [enclose, List.cons_append, isClosed_cons, isClosed_append_left (isClosed_double t)]
  decide

theorem noneOutside_enclose_double {separator : Char} (hs : separator ≠ '"') (t : Text) :
    NoneOutside separator (enclose (double t)) := by
  rw [enclose, List.cons_append]
  refine Inside.cons (fun h => absurd h.symm hs) ?_
  refine Inside.append (isClosed_double t) (inside_double hs t) ?_
  intro before after h
  have hmem : separator ∈ ['"'] := h ▸ List.mem_append_right before List.mem_cons_self
  exact absurd (List.mem_singleton.1 hmem) hs

theorem trimmed_enclose (body : Text) : Trimmed (enclose body) := by
  refine ⟨fun c hc => ?_, fun c hc => ?_⟩
  · obtain rfl : '"' = c := Option.some.inj hc
    decide
  · rw [enclose, List.getLast?_concat] at hc
    obtain rfl : '"' = c := Option.some.inj hc
    decide

end Quoted

/-! ### Lower case -/

theorem lowerOf_ne_nil (c : Char) : lowerOf c ≠ [] := by
  rw [lowerOf]
  split
  · exact List.cons_ne_nil _ _
  · rw [mapCase]
    split
    · next e he =>
      have hall : ∀ e ∈ lowerExpansions, e.2.map Char.ofNat ≠ [] := by decide
      exact hall e (List.mem_of_find?_eq_some he)
    · exact List.cons_ne_nil _ _

theorem lower_ne_nil {t : Text} (h : t ≠ []) : lower t ≠ [] := by
  cases t with
  | nil => exact absurd rfl h
  | cons c t =>
    rw [lower, lowerAfter]
    refine List.append_ne_nil_of_left_ne_nil ?_ _
    split
    · exact List.cons_ne_nil _ _
    · exact lowerOf_ne_nil c

namespace Identifier

/-- A character that a name without quotes is shown with. -/
def isPlainChar (c : Char) : Bool := isPlainLetter c || isDigit c || c == '_'

/-- Such characters are ASCII, in lower case, and none that is read as anything else. -/
theorem isPlainChar_spec {c : Char} (h : isPlainChar c = true) :
    lowerOf c = [c] ∧ c ≠ 'Σ' ∧ isBlank c = false ∧ c ∉ ['"', '.', ',', '='] := by
  have hascii : c.toNat < 128 := by
    simp only [isPlainChar, isPlainLetter, isDigit, Bool.or_eq_true, Bool.and_eq_true,
      decide_eq_true_eq, beq_iff_eq, Char.le_def, UInt32.le_iff_toNat_le] at h
    rcases h with (h | h) | rfl
    · exact Nat.lt_of_le_of_lt h.2 (by decide)
    · exact Nat.lt_of_le_of_lt h.2 (by decide)
    · decide
  have hall : ∀ n < 128, isPlainChar (Char.ofNat n) = true →
      lowerOf (Char.ofNat n) = [Char.ofNat n] ∧ Char.ofNat n ≠ 'Σ' ∧
        isBlank (Char.ofNat n) = false ∧ Char.ofNat n ∉ ['"', '.', ',', '='] := by
    decide +kernel
  have hc := hall c.toNat hascii
  rw [Char.ofNat_toNat] at hc
  exact hc h

theorem forall_of_isPlain {t : Text} (h : isPlain t = true) : ∀ c ∈ t, isPlainChar c = true := by
  cases t with
  | nil => exact fun _ hc => absurd hc List.not_mem_nil
  | cons c t =>
    rw [isPlain, Bool.and_eq_true] at h
    refine List.forall_mem_cons.2 ⟨?_, List.all_eq_true.1 h.2⟩
    rw [isPlainChar, h.1, Bool.true_or, Bool.true_or]

theorem quote_not_mem_of_isPlain {t : Text} (h : isPlain t = true) : '"' ∉ t := fun hmem =>
  (isPlainChar_spec (forall_of_isPlain h '"' hmem)).2.2.2 List.mem_cons_self

theorem lowerAfter_of_forall {t : Text} (h : ∀ c ∈ t, isPlainChar c = true) (letterBefore : Bool) :
    lowerAfter letterBefore t = t := by
  induction t generalizing letterBefore with
  | nil => rfl
  | cons c t ih =>
    obtain ⟨hlower, hsigma, -, -⟩ := isPlainChar_spec (h c List.mem_cons_self)
    rw [lowerAfter, if_neg hsigma, hlower, ih fun d hd => h d (List.mem_cons_of_mem c hd),
      List.singleton_append]

/-! ### Spellings -/

/-- The two kinds of spelling of a name. -/
inductive Spelling : Text → Identifier → Prop where
  /-- Exactly the text between the quotes, with one quote for each two. -/
  | quoted {exact : Text} : exact ≠ [] → Spelling (Quoted.enclose (Quoted.double exact)) (.quoted exact)
  /-- The text as it is, without regard to case. -/
  | unquoted {raw : Text} : raw ≠ [] → raw.head? ≠ some '"' → Spelling raw (.unquoted raw)

theorem parse_enclose {exact : Text} (h : exact ≠ []) :
    parse (Quoted.enclose (Quoted.double exact)) = .ok (.quoted exact) := by
  have hbody : Quoted.double exact ≠ [] := fun hb => h (Quoted.double_eq_nil_iff.1 hb)
  show parseQuoted (Quoted.double exact ++ ['"']) = _
  rw [parseQuoted, List.getLast?_concat, List.dropLast_concat, if_neg (by simp), if_neg hbody,
    Quoted.undouble?_double]

theorem parse_of_head_ne {raw : Text} (hne : raw ≠ []) (h : raw.head? ≠ some '"') :
    parse raw = .ok (.unquoted raw) := by
  cases raw with
  | nil => exact absurd rfl hne
  | cons c raw =>
    rw [parse]
    · exact hne
    · intro rest hrest
      exact h (by rw [hrest]; rfl)

theorem ne_nil_of_parse {raw : Text} {i : Identifier} (h : parse raw = .ok i) : raw ≠ [] := by
  intro hnil
  rw [hnil] at h
  cases h

/-- A quoted name is read from nothing but what is written for one. -/
theorem parseQuoted_eq_ok {rest : Text} {i : Identifier} (h : parseQuoted rest = .ok i) :
    Spelling ('"' :: rest) i := by
  rw [parseQuoted] at h
  split at h
  · cases h
  · next hlast =>
    split at h
    · cases h
    · next hbody =>
      split at h
      · next exact hexact =>
        cases h
        have hdouble := Quoted.eq_double_of_undouble? hexact
        have hrest : rest = Quoted.double exact ++ ['"'] := by
          rw [← hdouble]
          exact (List.dropLast_append_getLast? '"' (Decidable.not_not.1 hlast)).symm
        rw [hrest]
        exact .quoted fun he => hbody (by rw [hdouble, he]; rfl)
      · cases h

/-- **A name is read from its spellings and from nothing else.** -/
theorem parse_eq_ok_iff {raw : Text} {i : Identifier} : parse raw = .ok i ↔ Spelling raw i := by
  constructor
  · intro h
    match raw with
    | [] => cases h
    | c :: rest =>
      by_cases hc : c = '"'
      · subst hc
        exact parseQuoted_eq_ok h
      · have hhead : (c :: rest).head? ≠ some '"' := fun he => hc (Option.some.inj he)
        rw [parse_of_head_ne (List.cons_ne_nil c rest) hhead] at h
        cases h
        exact .unquoted (List.cons_ne_nil c rest) hhead
  · intro h
    cases h with
    | quoted hne => exact parse_enclose hne
    | unquoted hne hhead => exact parse_of_head_ne hne hhead

theorem Spelling.internal_ne_nil {raw : Text} {i : Identifier} (h : Spelling raw i) :
    i.internal ≠ [] := by
  cases h with
  | quoted hne => exact hne
  | unquoted hne _ => exact lower_ne_nil hne

/-! ### The shown form -/

/-- **What is shown for a name reads back as that name.** -/
theorem spelling_pretty {i : Identifier} (h : i.internal ≠ []) :
    ∃ j, Spelling i.pretty j ∧ j.internal = i.internal := by
  rw [pretty]
  split
  · next hplain =>
    refine ⟨_, .unquoted h fun hhead => ?_, lowerAfter_of_forall (forall_of_isPlain hplain) false⟩
    exact quote_not_mem_of_isPlain hplain (List.mem_of_mem_head? hhead)
  · exact ⟨_, .quoted h, rfl⟩

/-- What is shown tells a name from every other, also an empty one. -/
theorem pretty_eq_iff {i j : Identifier} : i.pretty = j.pretty ↔ i.internal = j.internal := by
  have hpretty : ∀ k : Identifier, k.pretty = if !isPlain k.internal then
      Quoted.enclose (Quoted.double k.internal) else k.internal := by
    intro k
    rw [pretty, render]
    cases isPlain k.internal <;> rfl
  constructor
  · intro h
    rw [hpretty, hpretty] at h
    apply Quoted.eq_of_enclosed_or_bare _ _ h
    · exact fun hplain => quote_not_mem_of_isPlain (by simpa using hplain)
    · exact fun hplain => quote_not_mem_of_isPlain (by simpa using hplain)
  · intro h
    rw [hpretty, hpretty, h]

theorem pretty_ne_nil (i : Identifier) : i.pretty ≠ [] := by
  rw [pretty]
  split
  · next hplain =>
    intro he
    rw [he] at hplain
    cases hplain
  · exact List.cons_ne_nil _ _

end Identifier
end TopicTables
