import TopicTables.Text.Quoted

/-! Pieces between the separators that stand outside quotes.

A place of a text is inside quotes when an odd number of quotes stands before it, so
a text whose quotes pair up can be put in front of another without moving any place
of that one into quotes or out of them. `splitOutside_append` says so of the cuts,
and the two laws of cutting follow: the pieces join to the text
(`joinWith_splitOutside`), and closed pieces without a separator outside quotes come
back from the text they join to (`splitOutside_joinWith`). Cutting at every separator
gives one piece more than there are separators (`length_splitOn`), and it cuts no closed
piece if there is no separator inside quotes (`noneInside_joinWith`). -/
namespace TopicTables

/-! ### Joining -/

theorem joinWith_singleton (separator t : Text) : joinWith separator [t] = t := by
  simp [joinWith]

theorem joinWith_cons {ts : List Text} (h : ts ≠ []) (separator t : Text) :
    joinWith separator (t :: ts) = t ++ separator ++ joinWith separator ts := by
  simp [joinWith, List.intercalate_cons_of_ne_nil h]

theorem joinWith_cons_left (separator : Text) (c : Char) (t : Text) (ts : List Text) :
    joinWith separator ((c :: t) :: ts) = c :: joinWith separator (t :: ts) :=
  List.intercalate_cons_cons_left

theorem joinWith_append {ts us : List Text} (ht : ts ≠ []) (hu : us ≠ []) (separator : Text) :
    joinWith separator (ts ++ us) = joinWith separator ts ++ separator ++ joinWith separator us := by
  induction ts with
  | nil => exact absurd rfl ht
  | cons t ts ih =>
    by_cases hts : ts = []
    · rw [hts, List.singleton_append, joinWith_cons hu, joinWith_singleton]
    · rw [List.cons_append, joinWith_cons (by simp [hts]), ih hts, joinWith_cons hts]
      simp only [List.append_assoc]

theorem mem_joinWith {separator : Text} {ts : List Text} {c : Char} (h : c ∈ joinWith separator ts) :
    c ∈ separator ∨ ∃ t ∈ ts, c ∈ t := by
  induction ts with
  | nil => exact absurd h List.not_mem_nil
  | cons t ts ih =>
    by_cases hts : ts = []
    · rw [hts, joinWith_singleton] at h
      exact .inr ⟨t, List.mem_cons_self, h⟩
    · rw [joinWith_cons hts] at h
      rcases List.mem_append.1 h with h | h
      · rcases List.mem_append.1 h with h | h
        · exact .inr ⟨t, List.mem_cons_self, h⟩
        · exact .inl h
      · exact (ih h).imp_right fun ⟨u, hu, hc⟩ => ⟨u, List.mem_cons_of_mem t hu, hc⟩

theorem mem_joinWith_of_mem {separator t : Text} {ts : List Text} {c : Char} (ht : t ∈ ts) (hc : c ∈ t) :
    c ∈ joinWith separator ts := by
  induction ts with
  | nil => cases ht
  | cons u ts ih =>
    by_cases hts : ts = []
    · subst hts
      rwa [joinWith_singleton, ← List.mem_singleton.1 ht]
    · rw [joinWith_cons hts, List.append_assoc, List.mem_append]
      rcases List.mem_cons.1 ht with rfl | ht
      · exact .inl hc
      · exact .inr (List.mem_append_right separator (ih ht))

/-- What a text holds of a character are the separators and what its pieces hold of it. -/
theorem count_joinWith (separator : Char) {ts : List Text} (hne : ts ≠ []) :
    (joinWith [separator] ts).count separator + 1 = ts.flatten.count separator + ts.length := by
  induction ts with
  | nil => exact absurd rfl hne
  | cons t ts ih =>
    by_cases hts : ts = []
    · simp [hts, joinWith_singleton]
    · have hrest := ih hts
      rw [joinWith_cons hts, List.flatten_cons, List.length_cons, List.count_append,
        List.count_append, List.count_append, List.count_singleton_self]
      omega

/-- Cutting every piece once more changes nothing about what they join to. -/
theorem joinWith_flatMap {separator : Text} {f : Text → List Text}
    (hf : ∀ t, f t ≠ [] ∧ joinWith separator (f t) = t) (ts : List Text) :
    joinWith separator (ts.flatMap f) = joinWith separator ts := by
  induction ts with
  | nil => rfl
  | cons t ts ih =>
    rw [List.flatMap_cons]
    by_cases hts : ts = []
    · rw [hts, List.flatMap_nil, List.append_nil, (hf t).2, joinWith_singleton]
    · have hne : ts.flatMap f ≠ [] := by
        obtain ⟨u, hu⟩ := List.exists_mem_of_ne_nil ts hts
        exact fun h => (hf u).1 (List.flatMap_eq_nil_iff.1 h u hu)
      rw [joinWith_append (hf t).1 hne, (hf t).2, ih, joinWith_cons hts]

theorem not_mem_of_mem_splitOn {separator : Char} {t p : Text} (h : p ∈ t.splitOn separator) :
    separator ∉ p := by
  induction t generalizing p with
  | nil =>
    rw [List.splitOn_nil, List.mem_singleton] at h
    rw [h]
    exact List.not_mem_nil
  | cons c t ih =>
    rw [List.splitOn_cons_eq_if_modifyHead] at h
    split at h
    · rcases List.mem_cons.1 h with rfl | h
      · exact List.not_mem_nil
      · exact ih h
    · next hc =>
      obtain ⟨q, qs, hq⟩ := List.exists_cons_of_ne_nil (List.splitOn_ne_nil separator t)
      rw [hq, List.modifyHead_cons] at h
      rcases List.mem_cons.1 h with rfl | h
      · have hne : separator ≠ c := fun he => hc (beq_iff_eq.2 he.symm)
        exact List.not_mem_cons_of_ne_of_not_mem hne (ih (hq ▸ List.mem_cons_self))
      · exact ih (hq ▸ List.mem_cons_of_mem q h)

theorem length_splitOn (separator : Char) (t : Text) :
    (t.splitOn separator).length = t.count separator + 1 := by
  have h := count_joinWith separator (List.splitOn_ne_nil separator t)
  have hnone : (t.splitOn separator).flatten.count separator = 0 := by
    rw [List.count_eq_zero, List.mem_flatten]
    rintro ⟨p, hp, hmem⟩
    exact not_mem_of_mem_splitOn hp hmem
  rw [joinWith, List.intercalate_splitOn, hnone] at h
  omega

/-- Nothing but separators is lost between the pieces. -/
theorem exists_mem_splitOn_iff {separator c : Char} (h : c ≠ separator) (t : Text) :
    (∃ p ∈ t.splitOn separator, c ∈ p) ↔ c ∈ t := by
  have hjoin : joinWith [separator] (t.splitOn separator) = t := List.intercalate_splitOn separator
  constructor
  · rintro ⟨p, hp, hc⟩
    rw [← hjoin]
    exact mem_joinWith_of_mem hp hc
  · intro hc
    rw [← hjoin] at hc
    exact (mem_joinWith hc).resolve_left (by simpa using h)

namespace Quoted

/-! ### Texts whose quotes pair up -/

theorem isClosed_cons (c : Char) (t : Text) : isClosed (c :: t) = (isClosed t != (c == '"')) := by
  by_cases h : c = '"'
  · rcases Nat.mod_two_eq_zero_or_one (t.count '"') with hm | hm <;>
      simp [isClosed, h, Nat.add_mod, hm]
  · have hc : (c == '"') = false := beq_eq_false_iff_ne.2 h
    rw [hc, Bool.bne_false, isClosed, List.count_cons_of_ne h, isClosed]

theorem isClosed_append (a b : Text) : isClosed (a ++ b) = (isClosed a == isClosed b) := by
  induction a with
  | nil => simp [isClosed]
  | cons c a ih =>
    rw [List.cons_append, isClosed_cons, isClosed_cons, ih]
    cases isClosed a <;> cases isClosed b <;> cases c == '"' <;> rfl

theorem isClosed_of_not_mem {t : Text} (h : '"' ∉ t) : isClosed t = true := by
  simp [isClosed, List.count_eq_zero.2 h]

/-- A closed text in front of another changes nothing there. -/
theorem isClosed_append_left {a : Text} (h : isClosed a = true) (b : Text) :
    isClosed (a ++ b) = isClosed b := by
  rw [isClosed_append, h, Bool.true_beq]

/-- Nor does a closed text with one more character behind it, unless that is a quote. -/
theorem isClosed_append_cons {c : Char} (hc : c ≠ '"') {a : Text} (ha : isClosed a = true)
    (b : Text) : isClosed (a ++ c :: b) = isClosed b := by
  rw [isClosed_append_left ha, isClosed_cons, beq_eq_false_iff_ne.2 hc, Bool.bne_false]

/-- What the first character leaves to the rest: the parity turns at a quote. -/
theorem isClosed_of_cons {c : Char} {t : Text} {inQuotes : Bool}
    (h : isClosed (c :: t) = !inQuotes) : isClosed t = !(inQuotes != (c == '"')) := by
  rw [isClosed_cons] at h
  revert h
  cases isClosed t <;> cases c == '"' <;> cases inQuotes <;> decide

/-! ### Separators outside quotes -/

/-- Every separator of the text stands inside quotes; `inQuotes` tells whether an odd
number of quotes stands before the text. -/
def Inside (separator : Char) (inQuotes : Bool) (t : Text) : Prop :=
  ∀ before after, t = before ++ separator :: after → isClosed before = inQuotes

/-- No separator of the text has an even number of quotes before it. -/
abbrev NoneOutside (separator : Char) (t : Text) : Prop := Inside separator false t

theorem not_noneOutside_iff {separator : Char} {t : Text} : ¬ NoneOutside separator t ↔
    ∃ before after, t = before ++ separator :: after ∧ isClosed before = true := by
  simp [NoneOutside, Inside]

theorem inside_of_not_mem {separator : Char} {inQuotes : Bool} {t : Text} (h : separator ∉ t) :
    Inside separator inQuotes t :=
  fun before _ ht => absurd (ht ▸ List.mem_append_right before List.mem_cons_self) h

/-- No separator of the text has an odd number of quotes before it. -/
abbrev NoneInside (separator : Char) (t : Text) : Prop := Inside separator true t

/-- Where every separator stands inside quotes, none stands outside them only if there is
none. -/
theorem noneInside_iff_not_mem {separator : Char} {t : Text} (h : NoneOutside separator t) :
    NoneInside separator t ↔ separator ∉ t := by
  refine ⟨fun hinside hmem => ?_, inside_of_not_mem⟩
  obtain ⟨before, after, ht⟩ := List.append_of_mem hmem
  cases (h before after ht).symm.trans (hinside before after ht)

theorem Inside.left {separator : Char} {inQuotes : Bool} {a b : Text}
    (h : Inside separator inQuotes (a ++ b)) : Inside separator inQuotes a := by
  intro before after ha
  exact h before (after ++ b) (by rw [ha, List.append_assoc, List.cons_append])

theorem Inside.right {separator : Char} {inQuotes : Bool} {a b : Text} (ha : isClosed a = true)
    (h : Inside separator inQuotes (a ++ b)) : Inside separator inQuotes b := by
  intro before after hb
  rw [← isClosed_append_left ha before]
  exact h (a ++ before) after (by rw [hb, List.append_assoc])

theorem Inside.cons {separator c : Char} {inQuotes : Bool} {t : Text}
    (hc : c = separator → inQuotes = true) (h : Inside separator (inQuotes != (c == '"')) t) :
    Inside separator inQuotes (c :: t) := by
  intro before after ht
  cases before with
  | nil => rw [hc (List.cons.inj ht).1]; rfl
  | cons d before =>
    obtain ⟨rfl, rest⟩ := List.cons.inj ht
    rw [isClosed_cons, h before after rest]
    cases inQuotes <;> cases c == '"' <;> rfl

theorem Inside.tail {separator c : Char} {inQuotes : Bool} {t : Text}
    (h : Inside separator inQuotes (c :: t)) : Inside separator (inQuotes != (c == '"')) t := by
  intro before after ht
  rw [← h (c :: before) after (by rw [ht, List.cons_append]), isClosed_cons]
  cases isClosed before <;> cases c == '"' <;> rfl

/-- A text in front turns the places of another about, or leaves them, by its own quotes. -/
theorem Inside.concat {separator : Char} {inQuotes : Bool} {a b : Text}
    (hl : Inside separator inQuotes a) (hr : Inside separator (inQuotes == isClosed a) b) :
    Inside separator inQuotes (a ++ b) := by
  intro before after h
  rcases List.append_eq_append_iff.1 h with ⟨more, hb, hmore⟩ | ⟨more, hb, hmore⟩
  · rw [hb, isClosed_append, hr more after hmore]
    cases isClosed a <;> cases inQuotes <;> rfl
  · cases more with
    | nil =>
      rw [List.append_nil] at hb
      have hfirst : isClosed [] = (inQuotes == isClosed a) := hr [] after hmore.symm
      rw [← hb]
      exact (beq_iff_eq.1 hfirst.symm).symm
    | cons c more =>
      obtain ⟨rfl, -⟩ := List.cons.inj hmore
      exact hl before more hb

/-- A closed text in front moves no separator into quotes. -/
theorem Inside.append {separator : Char} {inQuotes : Bool} {a b : Text} (ha : isClosed a = true)
    (hl : Inside separator inQuotes a) (hr : Inside separator inQuotes b) :
    Inside separator inQuotes (a ++ b) := by
  apply hl.concat
  rwa [ha, beq_true]

/-- In front of a closed text and a separator, a text keeps its separators where they are. -/
theorem noneInside_append_cons {separator : Char} (hs : separator ≠ '"') {a : Text}
    (ha : isClosed a = true) (b : Text) :
    NoneInside separator (a ++ separator :: b) ↔ NoneInside separator a ∧ NoneInside separator b := by
  have hkeep : (true != (separator == '"')) = true := by
    rw [beq_eq_false_iff_ne.2 hs]
    rfl
  constructor
  · intro h
    have hb := (h.right ha).tail
    rw [hkeep] at hb
    exact ⟨h.left, hb⟩
  · intro h
    exact h.1.append ha (Inside.cons (fun _ => rfl) (hkeep.symm ▸ h.2))

/-- What texts join to is closed exactly if an even number of them is open. -/
theorem isClosed_joinWith_eq {separator : Char} (hs : separator ≠ '"') (ts : List Text) :
    isClosed (joinWith [separator] ts) = ((ts.countP fun t => !isClosed t) % 2 == 0) := by
  induction ts with
  | nil => rfl
  | cons t ts ih =>
    have hcons : isClosed (joinWith [separator] (t :: ts)) =
        (isClosed t == isClosed (joinWith [separator] ts)) := by
      by_cases hts : ts = []
      · rw [hts, joinWith_singleton]
        cases isClosed t <;> rfl
      · rw [joinWith_cons hts, List.append_assoc, List.singleton_append, isClosed_append,
          isClosed_cons, beq_eq_false_iff_ne.2 hs, Bool.bne_false]
    rw [hcons, ih, List.countP_cons]
    rcases Nat.mod_two_eq_zero_or_one (ts.countP fun t => !isClosed t) with hm | hm <;>
      cases isClosed t <;> simp [Nat.add_mod, hm]

/-- What joins closed texts is closed, unless a quote joins them. -/
theorem isClosed_joinWith {separator : Char} (hs : separator ≠ '"') {ts : List Text}
    (h : ∀ t ∈ ts, isClosed t = true) : isClosed (joinWith [separator] ts) = true := by
  have hnone : ts.countP (fun t => !isClosed t) = 0 :=
    List.countP_eq_zero.2 fun t ht => by simp [h t ht]
  rw [isClosed_joinWith_eq hs, hnone]
  rfl

/-- Two pieces with another character between them are a piece. -/
theorem piece_append_cons {separator joiner : Char} (hj : joiner ≠ '"') (hne : joiner ≠ separator)
    {a b : Text} (ha : isClosed a = true ∧ NoneOutside separator a)
    (hb : isClosed b = true ∧ NoneOutside separator b) :
    isClosed (a ++ joiner :: b) = true ∧ NoneOutside separator (a ++ joiner :: b) := by
  have hkeep : (false != (joiner == '"')) = false := by simp [hj]
  constructor
  · rw [isClosed_append_cons hj ha.1, hb.1]
  · apply ha.2.append ha.1
    exact Inside.cons (fun h => absurd h hne) (hkeep.symm ▸ hb.2)

/-- Pieces that are joined by another character are one piece. -/
theorem piece_joinWith {separator joiner : Char} (hj : joiner ≠ '"') (hne : joiner ≠ separator)
    {ts : List Text} (h : ∀ t ∈ ts, isClosed t = true ∧ NoneOutside separator t) :
    isClosed (joinWith [joiner] ts) = true ∧ NoneOutside separator (joinWith [joiner] ts) := by
  induction ts with
  | nil => exact ⟨rfl, inside_of_not_mem List.not_mem_nil⟩
  | cons t ts ih =>
    obtain ⟨ht, hrest⟩ := List.forall_mem_cons.1 h
    by_cases hts : ts = []
    · rwa [hts, joinWith_singleton]
    · rw [joinWith_cons hts, List.append_assoc, List.singleton_append]
      exact piece_append_cons hj hne ht (ih hrest)

/-- Between closed pieces every separator stands outside quotes, and in them none does. -/
theorem noneInside_joinWith {separator : Char} (hs : separator ≠ '"') {ts : List Text}
    (hne : ts ≠ []) (h : ∀ t ∈ ts, isClosed t = true ∧ NoneOutside separator t) :
    NoneInside separator (joinWith [separator] ts) ↔ separator ∉ ts.flatten := by
  induction ts with
  | nil => exact absurd rfl hne
  | cons t ts ih =>
    obtain ⟨⟨hclosed, hpiece⟩, hrest⟩ := List.forall_mem_cons.1 h
    by_cases hts : ts = []
    · simpa [hts, joinWith_singleton] using noneInside_iff_not_mem hpiece
    · rw [joinWith_cons hts, List.append_assoc, List.singleton_append,
        noneInside_append_cons hs hclosed, noneInside_iff_not_mem hpiece, ih hts hrest,
        List.flatten_cons, List.mem_append, not_or]

/-! ### Cutting -/

/-- What the pieces of a text are when it starts inside quotes or outside them: they join
to the text, no separator in them stands outside quotes, and the quotes of each pair up
if those of the text do. -/
structure IsCut (separator : Char) (inQuotes : Bool) (t first : Text) (others : List Text) :
    Prop where
  joined : joinWith [separator] (first :: others) = t
  inside : Inside separator inQuotes first
  noneOutside : ∀ p ∈ others, NoneOutside separator p
  closed : isClosed t = !inQuotes → isClosed first = !inQuotes ∧ ∀ p ∈ others, isClosed p = true

theorem isCut_nil (separator : Char) (inQuotes : Bool) : IsCut separator inQuotes [] [] [] :=
  ⟨rfl, fun before _ h => absurd h (by simp), by simp, fun h => ⟨h, by simp⟩⟩

/-- A separator outside quotes starts a new piece. -/
theorem IsCut.cut {separator : Char} (hs : separator ≠ '"') {t first : Text} {others : List Text}
    (h : IsCut separator false t first others) :
    IsCut separator false (separator :: t) [] (first :: others) := by
  refine ⟨?_, (isCut_nil separator false).inside,
    List.forall_mem_cons.2 ⟨h.inside, h.noneOutside⟩,
    fun hc => ⟨rfl, ?_⟩⟩
  · rw [joinWith_cons (List.cons_ne_nil first others), h.joined]
    rfl
  · rw [isClosed_cons, beq_eq_false_iff_ne.2 hs, Bool.bne_false] at hc
    exact List.forall_mem_cons.2 (h.closed hc)

/-- Any other character belongs to the first piece. -/
theorem IsCut.cons {separator c : Char} {inQuotes : Bool} {t first : Text} {others : List Text}
    (hc : c = separator → inQuotes = true)
    (h : IsCut separator (inQuotes != (c == '"')) t first others) :
    IsCut separator inQuotes (c :: t) (c :: first) others := by
  refine ⟨?_, h.inside.cons hc, h.noneOutside, fun ht => ?_⟩
  · rw [joinWith_cons_left, h.joined]
  · obtain ⟨hfirst, hothers⟩ := h.closed (isClosed_of_cons ht)
    rw [isClosed_cons, hfirst]
    exact ⟨by cases c == '"' <;> cases inQuotes <;> rfl, hothers⟩

theorem outsidePieces_isCut {separator : Char} (hs : separator ≠ '"') (inQuotes : Bool) (t : Text) :
    ∃ first others, outsidePieces separator inQuotes t = first :: others ∧
      IsCut separator inQuotes t first others := by
  induction t generalizing inQuotes with
  | nil => exact ⟨[], [], rfl, isCut_nil separator inQuotes⟩
  | cons c t ih =>
    rw [outsidePieces]
    split
    · next hc =>
      obtain ⟨rfl, rfl⟩ := hc
      obtain ⟨first, others, hp, hcut⟩ := ih false
      exact ⟨[], first :: others, by rw [hp], hcut.cut hs⟩
    · next hc =>
      obtain ⟨first, others, hp, hcut⟩ := ih (inQuotes != (c == '"'))
      refine ⟨c :: first, others, by rw [hp, List.modifyHead_cons], hcut.cons fun h => ?_⟩
      exact Bool.of_not_eq_false fun hq => hc ⟨h, hq⟩

/-- Where the quotes before a separator pair up, the text is cut there. -/
theorem outsidePieces_append {separator : Char} (hs : separator ≠ '"') {inQuotes : Bool} {a : Text}
    (ha : isClosed a = !inQuotes) (b : Text) :
    outsidePieces separator inQuotes (a ++ separator :: b) =
      outsidePieces separator inQuotes a ++ outsidePieces separator false b := by
  induction a generalizing inQuotes with
  | nil =>
    obtain rfl : inQuotes = false := by simpa [isClosed] using ha.symm
    simp [outsidePieces]
  | cons c a ih =>
    have ha' := isClosed_of_cons ha
    rw [List.cons_append, outsidePieces, outsidePieces]
    split
    · next hc =>
      obtain ⟨rfl, rfl⟩ := hc
      rw [beq_eq_false_iff_ne.2 hs, Bool.bne_false] at ha'
      rw [ih ha', List.cons_append]
    · rw [ih ha']
      obtain ⟨first, others, hp, -⟩ := outsidePieces_isCut hs (inQuotes != (c == '"')) a
      rw [hp, List.cons_append, List.modifyHead_cons, List.modifyHead_cons, List.cons_append]

/-- A text without a separator outside quotes is one piece. -/
theorem outsidePieces_of_inside {separator : Char} {inQuotes : Bool} {t : Text}
    (h : Inside separator inQuotes t) : outsidePieces separator inQuotes t = [t] := by
  induction t generalizing inQuotes with
  | nil => rfl
  | cons c t ih =>
    have hc : ¬ (c = separator ∧ inQuotes = false) := by
      intro hcut
      obtain ⟨rfl, rfl⟩ := hcut
      exact absurd (h [] t rfl) (by decide)
    rw [outsidePieces, if_neg hc, ih h.tail, List.modifyHead_cons]

/-- A text is one piece exactly if no separator in it stands outside quotes. -/
theorem outsidePieces_eq_singleton_iff {separator : Char} (hs : separator ≠ '"') {inQuotes : Bool} {t : Text} :
    outsidePieces separator inQuotes t = [t] ↔ Inside separator inQuotes t := by
  constructor
  · intro h
    obtain ⟨first, others, hpieces, hcut⟩ := outsidePieces_isCut hs inQuotes t
    obtain ⟨rfl, -⟩ := List.cons.inj (h.symm.trans hpieces)
    exact hcut.inside
  · exact outsidePieces_of_inside

/-! ### The pieces of a whole text -/

theorem splitOutside_ne_nil (separator : Char) (t : Text) : splitOutside separator t ≠ [] := by
  obtain ⟨p, hp⟩ := List.exists_mem_of_ne_nil _ (outsidePieces_ne_nil separator false t)
  intro h
  have hpieces := List.flatMap_eq_nil_iff.1 h p hp
  split at hpieces
  · exact List.cons_ne_nil p [] hpieces
  · exact List.splitOn_ne_nil separator p hpieces

/-- **Joining the pieces gives the text back.** -/
theorem joinWith_splitOutside {separator : Char} (hs : separator ≠ '"') (t : Text) :
    joinWith [separator] (splitOutside separator t) = t := by
  obtain ⟨first, others, hp, hcut⟩ := outsidePieces_isCut hs false t
  refine Eq.trans ?_ hcut.joined
  rw [splitOutside, hp]
  refine joinWith_flatMap (fun p => ?_) (first :: others)
  split
  · exact ⟨List.cons_ne_nil p [], joinWith_singleton [separator] p⟩
  · exact ⟨List.splitOn_ne_nil separator p, List.intercalate_splitOn separator⟩

/-- No piece holds a separator outside quotes, whether or not the text is closed. -/
theorem noneOutside_of_mem_splitOutside {separator : Char} (hs : separator ≠ '"') {t p : Text}
    (h : p ∈ splitOutside separator t) : NoneOutside separator p := by
  obtain ⟨first, others, hpieces, hcut⟩ := outsidePieces_isCut hs false t
  obtain ⟨q, hq, hpq⟩ := List.mem_flatMap.1 h
  rw [hpieces] at hq
  split at hpq
  · rw [List.mem_singleton.1 hpq]
    exact List.forall_mem_cons.2 ⟨hcut.inside, hcut.noneOutside⟩ q hq
  · exact inside_of_not_mem (not_mem_of_mem_splitOn hpq)

/-- The pieces of a closed text are closed. -/
theorem isClosed_of_mem_splitOutside {separator : Char} (hs : separator ≠ '"') {t p : Text}
    (ht : isClosed t = true) (h : p ∈ splitOutside separator t) : isClosed p = true := by
  obtain ⟨first, others, hpieces, hcut⟩ := outsidePieces_isCut hs false t
  obtain ⟨q, hq, hpq⟩ := List.mem_flatMap.1 h
  rw [hpieces] at hq
  have hclosed : ∀ r ∈ first :: others, isClosed r = true :=
    List.forall_mem_cons.2 (hcut.closed ht)
  rw [if_pos (hclosed q hq), List.mem_singleton] at hpq
  rw [hpq, hclosed q hq]

/-- **A closed text in front of a separator is cut by itself.** -/
theorem splitOutside_append {separator : Char} (hs : separator ≠ '"') {a : Text}
    (ha : isClosed a = true) (b : Text) :
    splitOutside separator (a ++ separator :: b) =
      splitOutside separator a ++ splitOutside separator b := by
  rw [splitOutside, outsidePieces_append hs (by rw [ha]; rfl), List.flatMap_append]
  rfl

theorem splitOutside_of_noneOutside {separator : Char} {t : Text} (ht : isClosed t = true)
    (h : NoneOutside separator t) : splitOutside separator t = [t] := by
  rw [splitOutside, outsidePieces_of_inside h, List.flatMap_singleton, if_pos ht]

/-- Closed pieces without a separator outside quotes come back from in front of any others. -/
theorem splitOutside_joinWith_append {separator : Char} (hs : separator ≠ '"') {ts us : List Text}
    (hne : us ≠ []) (h : ∀ t ∈ ts, isClosed t = true ∧ NoneOutside separator t) :
    splitOutside separator (joinWith [separator] (ts ++ us)) =
      ts ++ splitOutside separator (joinWith [separator] us) := by
  induction ts with
  | nil => rfl
  | cons t ts ih =>
    obtain ⟨⟨hclosed, hnone⟩, hrest⟩ := List.forall_mem_cons.1 h
    have hrests : ts ++ us ≠ [] := List.append_ne_nil_of_right_ne_nil ts hne
    rw [List.cons_append, joinWith_cons hrests, List.append_assoc, List.singleton_append,
      splitOutside_append hs hclosed, splitOutside_of_noneOutside hclosed hnone, ih hrest]
    rfl

/-- **Closed pieces without a separator outside quotes come back** from the text that
they join to. -/
theorem splitOutside_joinWith {separator : Char} (hs : separator ≠ '"') {ts : List Text}
    (hne : ts ≠ []) (h : ∀ t ∈ ts, isClosed t = true ∧ NoneOutside separator t) :
    splitOutside separator (joinWith [separator] ts) = ts := by
  obtain ⟨front, last, rfl⟩ : ∃ front last, ts = front ++ [last] :=
    ⟨_, _, (List.dropLast_concat_getLast hne).symm⟩
  obtain ⟨hfront, hlast⟩ := List.forall_mem_append.1 h
  obtain ⟨hclosed, hnone⟩ := hlast last List.mem_cons_self
  rw [splitOutside_joinWith_append hs (List.cons_ne_nil last []) hfront, joinWith_singleton,
    splitOutside_of_noneOutside hclosed hnone]

theorem splitOutside_pair {separator : Char} (hs : separator ≠ '"') {a b : Text}
    (ha : isClosed a = true) (ha' : NoneOutside separator a) (hb : isClosed b = true)
    (hb' : NoneOutside separator b) : splitOutside separator (a ++ separator :: b) = [a, b] := by
  rw [splitOutside_append hs ha, splitOutside_of_noneOutside ha ha',
    splitOutside_of_noneOutside hb hb', List.singleton_append]

end Quoted
end TopicTables
