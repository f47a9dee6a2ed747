import Mathlib.Data.List.Forall2

/-! Computations that can fail, taken apart.

A sequence of steps fails with the first step that fails, so what came of it is read off the
steps: of two in a row (`bind_eq_ok`, `bind_eq_error`), of one for each item of a list
(`forall₂_of_mapM_ok`, `exists_of_mapM_error`), and of a state that is passed on from item to
item (`exists_step_of_foldlM_ok`, `exists_step_of_foldlM_error`). Where all steps fail in one
way, a sequence goes through exactly when each of them does (`Guarded`). -/
namespace TopicTables
variable {ε α β γ σ : Type}

section Pairs
variable {x : Except ε α} {f : α → Except ε β} {g : α → β}

theorem bind_eq_ok {b : β} (h : (x >>= f) = .ok b) : ∃ a, x = .ok a ∧ f a = .ok b := by
  cases x with
  | error e => cases h
  | ok a => exact ⟨a, rfl, h⟩

theorem bind_eq_error {e : ε} (h : (x >>= f) = .error e) :
    x = .error e ∨ ∃ a, x = .ok a ∧ f a = .error e := by
  cases x with
  | error e' =>
    cases h
    exact .inl rfl
  | ok a => exact .inr ⟨a, rfl, h⟩

theorem map_eq_ok {b : β} (h : x.map g = .ok b) : ∃ a, x = .ok a ∧ g a = b := by
  cases x with
  | error e => cases h
  | ok a => exact ⟨a, rfl, Except.ok.inj h⟩

theorem map_eq_error {e : ε} (h : x.map g = .error e) : x = .error e := by
  cases x with
  | error e' => simpa [Except.map] using h
  | ok a => cases h

/-- What is computed from an outcome tells that there is one. -/
theorem exists_of_map_toOption {b : β} (h : x.toOption.map g = some b) :
    ∃ a, x = .ok a ∧ g a = b := by
  cases x with
  | error e => cases h
  | ok a => exact ⟨a, rfl, Option.some.inj h⟩

theorem isOk_map (x : Except ε α) (g : α → β) : (x.map g).isOk = x.isOk := by
  cases x <;> rfl

theorem isOk_bind_bind_pure (x : Except ε α) (y : Except ε β) (g : α → β → γ) :
    (x >>= fun a => y >>= fun b => pure (g a b)).isOk = (x.isOk && y.isOk) := by
  cases x <;> cases y <;> rfl

end Pairs

/-! ### One step for each item -/

section Items
variable {f : α → Except ε β} {l : List α}

theorem isOk_mapM (f : α → Except ε β) (l : List α) :
    (l.mapM f).isOk = l.all fun a => (f a).isOk := by
  induction l with
  | nil => rfl
  | cons a l ih => rw [List.mapM_cons, isOk_bind_bind_pure, ih, List.all_cons]

theorem mapM_congr {g : α → Except ε β} (h : ∀ a ∈ l, f a = g a) : l.mapM f = l.mapM g := by
  induction l with
  | nil => rfl
  | cons a l ih =>
    rw [List.mapM_cons, List.mapM_cons, h a List.mem_cons_self,
      ih fun b hb => h b (List.mem_cons_of_mem a hb)]

theorem forall₂_of_mapM_ok {bs : List β} (h : l.mapM f = .ok bs) :
    List.Forall₂ (fun a b => f a = .ok b) l bs := by
  induction l generalizing bs with
  | nil =>
    cases h
    exact .nil
  | cons a l ih =>
    rw [List.mapM_cons] at h
    obtain ⟨b, hfirst, h⟩ := bind_eq_ok h
    obtain ⟨bs', hrest, h⟩ := bind_eq_ok h
    cases h
    exact .cons hfirst (ih hrest)

theorem map_of_mapM_ok {bs : List β} (h : l.mapM f = .ok bs) : l.map f = bs.map .ok := by
  rw [← List.forall₂_eq_eq_eq, List.forall₂_map_left_iff, List.forall₂_map_right_iff]
  exact forall₂_of_mapM_ok h

/-- What every step keeps of its item is kept of the list. -/
theorem map_eq_of_map_ok {bs : List β} {g : β → γ} {k : α → γ} (h : l.map f = bs.map .ok)
    (hkept : ∀ a b, f a = .ok b → g b = k a) : bs.map g = l.map k := by
  induction l generalizing bs with
  | nil =>
    cases bs with
    | nil => rfl
    | cons b bs => cases h
  | cons a l ih =>
    cases bs with
    | nil => cases h
    | cons b bs =>
      rw [List.map_cons, List.map_cons, List.cons_eq_cons] at h
      obtain ⟨hfirst, hrest⟩ := h
      rw [List.map_cons, List.map_cons, hkept a b hfirst, ih hrest]

theorem exists_of_mapM_error {e : ε} (h : l.mapM f = .error e) : ∃ a ∈ l, f a = .error e := by
  induction l with
  | nil => cases h
  | cons a l ih =>
    rw [List.mapM_cons] at h
    rcases bind_eq_error h with hfirst | ⟨b, -, h⟩
    · exact ⟨a, List.mem_cons_self, hfirst⟩
    · rcases bind_eq_error h with hrest | ⟨bs, -, h⟩
      · obtain ⟨c, hc, herror⟩ := ih hrest
        exact ⟨c, List.mem_cons_of_mem a hc, herror⟩
      · cases h

end Items

/-! ### A state passed on -/

section State
variable {f : σ → α → Except ε σ} {l : List α} {s : σ}

theorem exists_step_of_foldlM_error {e : ε} (h : l.foldlM f s = .error e) :
    ∃ a ∈ l, ∃ s', f s' a = .error e := by
  induction l generalizing s with
  | nil => cases h
  | cons a l ih =>
    rw [List.foldlM_cons] at h
    rcases bind_eq_error h with hfirst | ⟨s', -, h⟩
    · exact ⟨a, List.mem_cons_self, s, hfirst⟩
    · obtain ⟨b, hb, hstep⟩ := ih h
      exact ⟨b, List.mem_cons_of_mem a hb, hstep⟩

theorem exists_step_of_foldlM_ok {s' : σ} (h : l.foldlM f s = .ok s') {a : α} (ha : a ∈ l) :
    ∃ before after, f before a = .ok after := by
  induction l generalizing s with
  | nil => cases ha
  | cons b l ih =>
    rw [List.foldlM_cons] at h
    obtain ⟨middle, hfirst, h⟩ := bind_eq_ok h
    rcases List.mem_cons.1 ha with rfl | ha
    · exact ⟨s, middle, hfirst⟩
    · exact ih h ha

end State

/-! ### One way to fail -/

/-- The steps go through when a test passes, and fail with `e` when it does not. -/
inductive Guarded {ε α : Type} (e : ε) : Bool → Except ε α → Prop
  | ok (a : α) : Guarded e true (.ok a)
  | error : Guarded e false (.error e)

namespace Guarded
variable {e : ε} {test after : Bool} {x : Except ε α} {f : α → Except ε β}

theorem isOk (h : Guarded e test x) : x.isOk = test := by
  cases h <;> rfl

theorem eq_error (h : Guarded e false x) : x = .error e := by
  cases h
  rfl

theorem exists_ok (h : Guarded e true x) : ∃ a, x = .ok a := by
  cases h with
  | ok a => exact ⟨a, rfl⟩

theorem bind (h : Guarded e test x) (hf : ∀ a, Guarded e after (f a)) :
    Guarded e (test && after) (x >>= f) := by
  cases h with
  | ok a => exact hf a
  | error => exact .error

theorem bind_pure (h : Guarded e test x) (g : α → β) :
    Guarded e test (x >>= fun a => pure (g a)) := by
  cases h with
  | ok a => exact .ok (g a)
  | error => exact .error

theorem mapM {l : List α} {p : α → Bool} (h : ∀ a, Guarded e (p a) (f a)) :
    Guarded e (l.all p) (l.mapM f) := by
  induction l with
  | nil => exact .ok []
  | cons a l ih =>
    rw [List.mapM_cons, List.all_cons]
    exact (h a).bind fun b => ih.bind_pure _

end Guarded
end TopicTables
