import TopicTables.Text.Basic

/-! Ordered collections with one item per key.

A `Roster` keeps its items in the order in which their keys first arrived and never
holds two items of one key: `add?` refuses an item whose key is taken, and `put`
replaces it where it stands. -/
namespace TopicTables

/-- Items in order of arrival, at most one for each key. -/
structure Roster {α κ : Type} (key : α → κ) where
  items : List α
  distinct : (items.map key).Nodup

namespace Roster
variable {α κ : Type} {key : α → κ}

/-- No items. -/
def empty : Roster key := ⟨[], by simp⟩

instance : EmptyCollection (Roster key) := ⟨empty⟩
instance : Inhabited (Roster key) := ⟨empty⟩

/-- The keys in order of arrival. -/
def keys (l : Roster key) : List κ := l.items.map key

/-- How many items there are. -/
def size (l : Roster key) : Nat := l.items.length

variable [DecidableEq κ]

/-- The item of a key. -/
def find? (l : Roster key) (k : κ) : Option α := l.items.find? fun a => key a = k

/-- There is an item of the key. -/
def contains (l : Roster key) (k : κ) : Bool := l.items.any fun a => key a = k

theorem contains_iff (l : Roster key) (k : κ) : l.contains k = true ↔ k ∈ l.keys := by
  simp [contains, keys]

theorem distinct_append {l : Roster key} {a : α} (h : ¬ l.contains (key a) = true) :
    ((l.items ++ [a]).map key).Nodup := by
  rw [contains_iff, keys] at h
  rw [List.map_append, List.nodup_append]
  refine ⟨l.distinct, by simp, fun x hx y hy => ?_⟩
  rw [List.map_cons, List.map_nil, List.mem_singleton] at hy
  exact fun hxy => h (hy ▸ hxy ▸ hx)

theorem map_key_replace (l : List α) (a : α) :
    (l.map fun b => if key b = key a then a else b).map key = l.map key := by
  rw [List.map_map]
  refine List.map_congr_left fun b _ => ?_
  rw [Function.comp_apply]
  split
  · next h => exact h.symm
  · rfl

/-- Adds an item at the end, unless its key is taken. -/
def add? (l : Roster key) (a : α) : Option (Roster key) :=
  if h : l.contains (key a) then none else some ⟨l.items ++ [a], distinct_append h⟩

/-- Puts an item in the place of the one with its key, or at the end. -/
def put (l : Roster key) (a : α) : Roster key :=
  if h : l.contains (key a) then
    ⟨l.items.map fun b => if key b = key a then a else b, by
      rw [map_key_replace]; exact l.distinct⟩
  else ⟨l.items ++ [a], distinct_append h⟩

/-- The items put one after the other: a repeated key keeps its first place and its
last item. -/
def ofList (items : List α) : Roster key := items.foldl put empty

/-- A new key goes to the end and a taken one stays in its place. -/
theorem keys_put (l : Roster key) (a : α) :
    (l.put a).keys = if l.contains (key a) then l.keys else l.keys ++ [key a] := by
  unfold put
  split
  · rw [keys, map_key_replace, keys]
  · simp [keys]

theorem add?_eq_none_iff (l : Roster key) (a : α) : l.add? a = none ↔ key a ∈ l.keys := by
  rw [← contains_iff, add?]
  split <;> simp_all

end Roster
end TopicTables
