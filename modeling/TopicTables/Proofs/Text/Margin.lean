import TopicTables.Text.Blank
import Mathlib.Data.List.DropRight

/-! White space around a text.

A text is *trimmed* when neither of its ends is white space. `strip` finds the trimmed
text inside any white space: what it leaves is trimmed and stands in the text between two
blank margins (`padded_strip`), and a trimmed text comes back from between any two
(`strip_padded`). -/
namespace TopicTables

/-- There is nothing but white space. -/
def IsMargin (w : Text) : Prop := ∀ c ∈ w, isBlank c = true

/-- The text with any white space around it. -/
def Padded (core t : Text) : Prop :=
  ∃ before after, t = before ++ core ++ after ∧ IsMargin before ∧ IsMargin after

/-- No white space at either end. -/
structure Trimmed (t : Text) : Prop where
  start : ∀ c ∈ t.head?, isBlank c = false
  stop : ∀ c ∈ t.getLast?, isBlank c = false

/-! ### Margins -/

theorem isMargin_nil : IsMargin [] := fun _ h => absurd h List.not_mem_nil

theorem IsMargin.append {v w : Text} (hv : IsMargin v) (hw : IsMargin w) : IsMargin (v ++ w) :=
  List.forall_mem_append.2 ⟨hv, hw⟩

theorem IsMargin.not_mem {w : Text} (h : IsMargin w) {c : Char} (hc : isBlank c = false) : c ∉ w :=
  fun hm => by rw [h c hm] at hc; cases hc

theorem padded_self (t : Text) : Padded t t :=
  ⟨[], [], by rw [List.nil_append, List.append_nil], isMargin_nil, isMargin_nil⟩

theorem Padded.cons {core t : Text} (h : Padded core t) {c : Char} (hc : isBlank c = true) :
    Padded core (c :: t) := by
  obtain ⟨before, after, rfl, hb, ha⟩ := h
  exact ⟨c :: before, after, rfl, List.forall_mem_cons.2 ⟨hc, hb⟩, ha⟩

/-- White space may be added on the left. -/
theorem Padded.append_left {core t : Text} (h : Padded core t) {w : Text} (hw : IsMargin w) :
    Padded core (w ++ t) := by
  obtain ⟨before, after, rfl, hb, ha⟩ := h
  exact ⟨w ++ before, after, by simp only [List.append_assoc], hw.append hb, ha⟩

/-- White space may be added on the right. -/
theorem Padded.append_right {core t : Text} (h : Padded core t) {w : Text} (hw : IsMargin w) :
    Padded core (t ++ w) := by
  obtain ⟨before, after, rfl, hb, ha⟩ := h
  exact ⟨before, after ++ w, by simp only [List.append_assoc], hb, ha.append hw⟩

/-! ### Trimmed texts -/

theorem trimmed_of_forall {t : Text} (h : ∀ c ∈ t, isBlank c = false) : Trimmed t :=
  ⟨fun c hc => h c (List.mem_of_mem_head? hc), fun c hc => h c (List.mem_of_mem_getLast? hc)⟩

/-- Only the two ends count. -/
theorem Trimmed.around {a b : Text} (ha : Trimmed a) (hb : Trimmed b) (hane : a ≠ [])
    (hbne : b ≠ []) (t : Text) : Trimmed (a ++ t ++ b) := by
  refine ⟨?_, ?_⟩
  · rw [List.append_assoc, List.head?_append_of_ne_nil _ hane]
    exact ha.start
  · rw [List.getLast?_append_of_ne_nil _ hbne]
    exact hb.stop

/-! ### Stripping -/

theorem dropWhile_of_start {t : Text} (h : ∀ c ∈ t.head?, isBlank c = false) :
    t.dropWhile isBlank = t := by
  cases t with
  | nil => rfl
  | cons c t => exact List.dropWhile_cons_of_neg (by rw [h c rfl]; decide)

theorem head?_dropWhile_isBlank (t : Text) : ∀ c ∈ (t.dropWhile isBlank).head?, isBlank c = false := by
  intro c hc
  have h := List.head?_dropWhile_not isBlank t
  rw [Option.mem_def.1 hc] at h
  exact h

theorem padded_strip (t : Text) : Padded (strip t) t := by
  refine ⟨t.takeWhile isBlank, ((t.dropWhile isBlank).reverse.takeWhile isBlank).reverse, ?_,
    fun c hc => List.mem_takeWhile_imp hc,
    fun c hc => List.mem_takeWhile_imp (List.mem_reverse.1 hc)⟩
  rw [List.append_assoc, strip, stripEnd_append, List.takeWhile_append_dropWhile]

/-- One character that is not white space is enough for a text not to be blank. -/
theorem strip_ne_nil_of_mem {t : Text} {c : Char} (h : c ∈ t) (hc : isBlank c = false) :
    strip t ≠ [] := by
  intro hnil
  obtain ⟨before, after, ht, hb, ha⟩ := padded_strip t
  rw [hnil, List.append_nil] at ht
  exact (hb.append ha).not_mem hc (ht ▸ h)

theorem trimmed_strip (t : Text) : Trimmed (strip t) := by
  refine ⟨fun c hc => ?_, fun c hc => ?_⟩
  · obtain ⟨rest, hrest⟩ : strip t <+: t.dropWhile isBlank :=
      List.rdropWhile_prefix isBlank (t.dropWhile isBlank)
    apply head?_dropWhile_isBlank t
    rw [← hrest, Option.mem_def, List.head?_append, Option.mem_def.1 hc, Option.some_or]
  · apply head?_dropWhile_isBlank (t.dropWhile isBlank).reverse
    rw [strip, stripEnd, List.getLast?_reverse] at hc
    exact hc

theorem stripEnd_append_margin {t w : Text} (ht : ∀ c ∈ t.getLast?, isBlank c = false)
    (hw : IsMargin w) : stripEnd (t ++ w) = t := by
  have hlast : ∀ c ∈ t.reverse.head?, isBlank c = false := by
    rw [List.head?_reverse]
    exact ht
  rw [stripEnd, List.reverse_append,
    List.dropWhile_append_of_pos fun c hc => hw c (List.mem_reverse.1 hc),
    dropWhile_of_start hlast, List.reverse_reverse]

/-- What is no white space is not taken off the end. -/
theorem mem_stripEnd {t : Text} {c : Char} (h : c ∈ t) (hc : isBlank c = false) :
    c ∈ stripEnd t := by
  rw [← stripEnd_append t, List.mem_append] at h
  refine h.resolve_right fun hmem => ?_
  rw [List.mem_takeWhile_imp (List.mem_reverse.1 hmem)] at hc
  cases hc

/-- A text that does not start with white space keeps its start. -/
theorem strip_cons {c : Char} (hc : isBlank c = false) (t : Text) :
    strip (c :: t) = c :: stripEnd t := by
  have hend : stripEnd (c :: t) = c :: stripEnd t := by
    rw [stripEnd, stripEnd, List.reverse_cons, List.dropWhile_append]
    split
    · next hall =>
      rw [List.isEmpty_iff.1 hall, List.dropWhile_cons_of_neg (by simp [hc])]
      rfl
    · rw [List.reverse_append]
      rfl
  rw [strip, List.dropWhile_cons_of_neg (by simp [hc]), hend]

/-- **A trimmed text comes back from between any two margins.** -/
theorem strip_padded {core t : Text} (h : Padded core t) (hcore : Trimmed core) :
    strip t = core := by
  obtain ⟨before, after, rfl, hb, ha⟩ := h
  rw [strip, List.append_assoc, List.dropWhile_append_of_pos hb]
  by_cases hne : core = []
  · rw [hne, List.nil_append, ← List.append_nil after, List.dropWhile_append_of_pos ha]
    rfl
  · have hstart : ∀ c ∈ (core ++ after).head?, isBlank c = false := by
      rw [List.head?_append_of_ne_nil _ hne]
      exact hcore.start
    rw [dropWhile_of_start hstart, stripEnd_append_margin hcore.stop ha]

end TopicTables
