import TopicTables.Roster
import Mathlib.Data.List.Find
import Mathlib.Data.List.Induction
import Mathlib.Data.List.Nodup

/-! What the operations of an ordered collection do to its items. -/
namespace TopicTables.Roster
variable {α κ : Type} {key : α → κ}

@[simp] theorem items_empty : (∅ : Roster key).items = [] := rfl

@[simp] theorem keys_empty : (∅ : Roster key).keys = [] := rfl

/-- There is one item of a key at most. -/
theorem eq_of_key_eq {l : Roster key} {a b : α} (ha : a ∈ l.items) (hb : b ∈ l.items)
    (h : key a = key b) : a = b :=
  List.inj_on_of_nodup_map l.distinct ha hb h

theorem key_mem_keys {l : Roster key} {a : α} (h : a ∈ l.items) : key a ∈ l.keys :=
  List.mem_map_of_mem h

theorem keys_concat {l m : Roster key} {a : α} (h : m.items = l.items ++ [a]) :
    m.keys = l.keys ++ [key a] := by
  rw [keys, h, List.map_append, keys]
  rfl

section Repetitions
variable [BEq κ] [LawfulBEq κ]

theorem eraseDups_concat (ks : List κ) (k : κ) :
    (ks ++ [k]).eraseDups = if k ∈ ks then ks.eraseDups else ks.eraseDups ++ [k] := by
  rw [List.eraseDups_append]
  split
  · next h => simp [List.removeAll, h]
  · next h => simp [List.removeAll, List.eraseDups_cons, h]

theorem eraseDups_of_nodup {ks : List κ} (h : ks.Nodup) : ks.eraseDups = ks := by
  induction ks using List.reverseRecOn with
  | nil => rfl
  | append_singleton ks k ih =>
    obtain ⟨hks, -, hapart⟩ := List.nodup_append.1 h
    have hk : k ∉ ks := fun hk => hapart k hk k (List.mem_singleton_self k) rfl
    rw [eraseDups_concat, if_neg hk, ih hks]

end Repetitions

variable [DecidableEq κ]

/-! ### Looking up -/

theorem mem_of_find? {l : Roster key} {k : κ} {a : α} (h : l.find? k = some a) :
    a ∈ l.items ∧ key a = k := by
  rw [find?] at h
  exact ⟨List.mem_of_find?_eq_some h, by simpa using List.find?_some h⟩

theorem find?_eq_none_iff {l : Roster key} {k : κ} : l.find? k = none ↔ k ∉ l.keys := by
  rw [find?, List.find?_eq_none, keys, List.mem_map]
  simp

theorem find?_eq_some_iff {l : Roster key} {k : κ} {a : α} :
    l.find? k = some a ↔ a ∈ l.items ∧ key a = k := by
  constructor
  · exact mem_of_find?
  · intro h
    obtain ⟨ha, rfl⟩ := h
    cases hfind : l.find? (key a) with
    | none => exact absurd (key_mem_keys ha) (find?_eq_none_iff.1 hfind)
    | some b =>
      obtain ⟨hb, hkey⟩ := mem_of_find? hfind
      rw [eq_of_key_eq hb ha hkey]

theorem find?_of_mem {l : Roster key} {a : α} (h : a ∈ l.items) : l.find? (key a) = some a :=
  find?_eq_some_iff.2 ⟨h, rfl⟩

/-- The order of the keys and what is found under them make the collection. -/
theorem eq_of_find?_eq {l m : Roster key} (hkeys : l.keys = m.keys)
    (hfind : ∀ k, l.find? k = m.find? k) : l = m := by
  have hitems : ∀ n : Roster key, n.items = n.keys.filterMap n.find? := by
    intro n
    calc n.items
        = n.items.filterMap some := List.filterMap_some.symm
      _ = n.items.filterMap (n.find? ∘ key) :=
        List.filterMap_congr fun a ha => (find?_of_mem ha).symm
      _ = n.keys.filterMap n.find? := List.filterMap_map.symm
  have heq : l.items = m.items := by
    rw [hitems l, hitems m, hkeys, funext hfind]
  cases l
  cases m
  cases heq
  rfl

/-- What is found does not depend on the order. -/
theorem find?_of_perm {l m : Roster key} (h : l.items.Perm m.items) (k : κ) :
    l.find? k = m.find? k := by
  ext a
  rw [find?_eq_some_iff, find?_eq_some_iff, h.mem_iff]

/-- Leaving out items of other keys does not change what is found. -/
theorem find?_of_items_eq_filter {l m : Roster key} {p : α → Bool}
    (h : m.items = l.items.filter p) {k : κ} (hp : ∀ a ∈ l.items, key a = k → p a = true) :
    m.find? k = l.find? k := by
  rw [find?, h, List.find?_filter, find?]
  refine List.find?_congr fun a ha => ?_
  by_cases hk : key a = k
  · simp [hk, hp a ha hk]
  · simp [hk]

/-! ### Adding and putting -/

/-- A new item goes to the end. -/
theorem items_of_add?_eq_some {l m : Roster key} {a : α} (h : l.add? a = some m) :
    m.items = l.items ++ [a] := by
  rw [add?] at h
  split at h
  · cases h
  · rw [← Option.some.inj h]

theorem items_put_of_not_mem {l : Roster key} {a : α} (h : key a ∉ l.keys) :
    (l.put a).items = l.items ++ [a] := by
  rw [put, dif_neg (mt (contains_iff l (key a)).1 h)]

/-- An item stands in for the one with its key, and the others stay. -/
theorem mem_put {l : Roster key} {a b : α} :
    b ∈ (l.put a).items ↔ b = a ∨ b ∈ l.items ∧ key b ≠ key a := by
  by_cases h : key a ∈ l.keys
  · rw [put, dif_pos ((contains_iff l (key a)).2 h), List.mem_map]
    constructor
    · intro hb
      obtain ⟨c, hc, rfl⟩ := hb
      by_cases hk : key c = key a
      · exact .inl (if_pos hk)
      · rw [if_neg hk]
        exact .inr ⟨hc, hk⟩
    · intro hb
      rcases hb with rfl | ⟨hb, hk⟩
      · obtain ⟨c, hc, hk⟩ := List.mem_map.1 h
        exact ⟨c, hc, if_pos hk⟩
      · exact ⟨b, hb, if_neg hk⟩
  · rw [items_put_of_not_mem h, List.mem_append, List.mem_singleton]
    constructor
    · intro hb
      rcases hb with hb | rfl
      · exact .inr ⟨hb, fun hk => h (hk ▸ key_mem_keys hb)⟩
      · exact .inl rfl
    · intro hb
      rcases hb with rfl | ⟨hb, -⟩
      · exact .inr rfl
      · exact .inl hb

/-- Putting an item does not change what is found under other keys. -/
theorem find?_put_of_ne {l : Roster key} {a : α} {k : κ} (h : key a ≠ k) :
    (l.put a).find? k = l.find? k := by
  ext b
  rw [find?_eq_some_iff, find?_eq_some_iff, mem_put]
  constructor
  · intro hb
    obtain ⟨rfl | ⟨hb, -⟩, hk⟩ := hb
    · exact absurd hk h
    · exact ⟨hb, hk⟩
  · intro hb
    obtain ⟨hb, rfl⟩ := hb
    exact ⟨.inr ⟨hb, Ne.symm h⟩, rfl⟩

theorem mem_keys_put {l : Roster key} {a : α} {k : κ} :
    k ∈ (l.put a).keys ↔ k ∈ l.keys ∨ k = key a := by
  rw [keys_put]
  split
  · next h =>
    rw [contains_iff] at h
    exact ⟨.inl, fun hk => hk.elim id fun he => he ▸ h⟩
  · rw [List.mem_append, List.mem_singleton]

theorem find?_put {l : Roster key} {a : α} {k : κ} :
    (l.put a).find? k = if key a = k then some a else l.find? k := by
  split
  · next h =>
    rw [← h]
    exact find?_of_mem (mem_put.2 (.inl rfl))
  · next h => exact find?_put_of_ne h

/-! ### Putting several items -/

/-- Keys stand where they first arrive. -/
theorem keys_foldl_put [BEq κ] [LawfulBEq κ] (l : Roster key) (items : List α) :
    (items.foldl put l).keys = (l.keys ++ items.map key).eraseDups := by
  induction items using List.reverseRecOn with
  | nil =>
    rw [List.map_nil, List.append_nil, List.foldl_nil]
    exact (eraseDups_of_nodup l.distinct).symm
  | append_singleton items a ih =>
    rw [List.foldl_concat, keys_put, List.map_append, List.map_singleton, ← List.append_assoc,
      eraseDups_concat, ← ih]
    simp only [contains_iff, ih, List.mem_eraseDups]

/-- Under each key stands the item that was put last. -/
theorem find?_foldl_put (l : Roster key) (items : List α) (k : κ) :
    (items.foldl put l).find? k = (items.reverse.find? fun a => key a = k).or (l.find? k) := by
  induction items using List.reverseRecOn with
  | nil => rfl
  | append_singleton items a ih =>
    rw [List.foldl_concat, find?_put, List.reverse_concat, List.find?_cons, ih]
    by_cases h : key a = k
    · simp [h]
    · simp [h]

theorem find?_reverse (l : Roster key) (k : κ) :
    (l.items.reverse.find? fun a => key a = k) = l.find? k := by
  have hdistinct : (l.items.reverse.map key).Nodup := by
    rw [List.map_reverse, List.nodup_reverse]
    exact l.distinct
  exact find?_of_perm (l := ⟨l.items.reverse, hdistinct⟩) (List.reverse_perm l.items) k

theorem ofList_items (l : Roster key) : ofList l.items = l := by
  refine eq_of_find?_eq ?_ fun k => ?_
  · rw [ofList, keys_foldl_put]
    exact eraseDups_of_nodup l.distinct
  · rw [ofList, find?_foldl_put, find?_reverse]
    exact Option.or_none

/-- Items put into one collection and then into another could as well have been put into the
other at once. -/
theorem foldl_put_items_put (l m : Roster key) (a : α) :
    (m.put a).items.foldl put l = (m.items.foldl put l).put a := by
  -- The item may stand anywhere in `m`, so keys and lookups are compared and not the folds.
  refine eq_of_find?_eq ?_ fun k => ?_
  · rw [keys_foldl_put, keys_put, keys_foldl_put]
    simp only [contains_iff, keys_foldl_put, List.mem_eraseDups]
    show (l.keys ++ (m.put a).keys).eraseDups =
      if key a ∈ l.keys ++ m.keys then (l.keys ++ m.keys).eraseDups
      else (l.keys ++ m.keys).eraseDups ++ [key a]
    rw [keys_put]
    split
    · next h =>
      rw [if_pos (List.mem_append_right _ ((contains_iff m _).1 h))]
    · rw [← List.append_assoc, eraseDups_concat]
  · rw [find?_foldl_put, find?_reverse, find?_put, find?_put, find?_foldl_put, find?_reverse]
    split
    · rfl
    · rfl

end TopicTables.Roster
