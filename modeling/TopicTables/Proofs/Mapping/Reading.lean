import TopicTables.Mapping.Basic
import TopicTables.Proofs.Roster
import Mathlib.Data.List.Forall2

/-! Reading the entries of a mapping one after the other.

Each entry adds one column or one error, and an error is never taken back. A run is
*clean* when every entry is read and names a column of its own: then it maps exactly
those entries, in their order, and reports nothing (`foldl_of_clean`), and a run that
reports nothing is clean (`clean_of_foldl`). -/
namespace TopicTables.Mapping

namespace Reading

/-! ### One entry -/

theorem next_of_error {entry : Text} {e : EntryError} (h : Entry.parse entry = .error e)
    (r : Reading) : r.next entry = { r with errors := r.errors ++ [.entry e] } := by
  rw [next, h]

theorem next_of_repeated {entry : Text} {e : Entry} (h : Entry.parse entry = .ok e) {r : Reading}
    (hk : e.column.internal ∈ r.mapping.keys) :
    r.next entry = { r with errors := r.errors ++ [.repeated e.column] } := by
  rw [next, h]
  simp only [(Roster.add?_eq_none_iff r.mapping e).2 hk]

/-- An entry of a new column is added at the end and reports nothing. -/
theorem next_of_new {entry : Text} {e : Entry} (h : Entry.parse entry = .ok e) {r : Reading}
    (hk : e.column.internal ∉ r.mapping.keys) :
    (r.next entry).mapping.items = r.mapping.items ++ [e] ∧ (r.next entry).errors = r.errors := by
  cases hadd : r.mapping.add? e with
  | none => exact absurd ((Roster.add?_eq_none_iff r.mapping e).1 hadd) hk
  | some m =>
    rw [next, h]
    simp only [hadd, and_true]
    exact Roster.items_of_add?_eq_some hadd

/-- An entry that reports nothing is read and names a new column. -/
theorem new_of_errors_eq {r : Reading} {entry : Text} (h : (r.next entry).errors = r.errors) :
    ∃ e, Entry.parse entry = .ok e ∧ e.column.internal ∉ r.mapping.keys := by
  cases hparse : Entry.parse entry with
  | error e =>
    rw [next_of_error hparse] at h
    exact absurd h (by simp)
  | ok e =>
    refine ⟨e, rfl, fun hk => ?_⟩
    rw [next_of_repeated hparse hk] at h
    exact absurd h (by simp)

/-- What was reported has no part in what is mapped next. -/
theorem mapping_next_congr {r s : Reading} (h : r.mapping = s.mapping) (entry : Text) :
    (r.next entry).mapping = (s.next entry).mapping := by
  cases r
  cases s
  cases h
  simp only [next]
  split
  · rfl
  · split <;> rfl

theorem errors_prefix_next (r : Reading) (entry : Text) : r.errors <+: (r.next entry).errors := by
  cases hparse : Entry.parse entry with
  | error e =>
    rw [next_of_error hparse]
    exact List.prefix_append _ _
  | ok e =>
    by_cases hk : e.column.internal ∈ r.mapping.keys
    · rw [next_of_repeated hparse hk]
      exact List.prefix_append _ _
    · exact (next_of_new hparse hk).2.symm ▸ List.prefix_rfl

/-! ### A run of entries -/

theorem mapping_foldl_congr {r s : Reading} (h : r.mapping = s.mapping) (entries : List Text) :
    (entries.foldl next r).mapping = (entries.foldl next s).mapping := by
  induction entries generalizing r s with
  | nil => exact h
  | cons entry entries ih => exact ih (mapping_next_congr h entry)

/-- What has been reported stays reported. -/
theorem errors_prefix_foldl (r : Reading) (entries : List Text) :
    r.errors <+: (entries.foldl next r).errors := by
  induction entries generalizing r with
  | nil => exact List.prefix_rfl
  | cons entry entries ih => exact (errors_prefix_next r entry).trans (ih (r.next entry))

/-- Only entries that were read are mapped. -/
theorem parsed_of_mem_next {r : Reading} {entry : Text}
    (h : ∀ e ∈ r.mapping.items, ∃ t, Entry.parse t = .ok e) :
    ∀ e ∈ (r.next entry).mapping.items, ∃ t, Entry.parse t = .ok e := by
  cases hparse : Entry.parse entry with
  | error _ =>
    rw [next_of_error hparse]
    exact h
  | ok e =>
    by_cases hk : e.column.internal ∈ r.mapping.keys
    · rw [next_of_repeated hparse hk]
      exact h
    · rw [(next_of_new hparse hk).1]
      exact List.forall_mem_append.2 ⟨h, List.forall_mem_singleton.2 ⟨entry, hparse⟩⟩

theorem parsed_of_mem_foldl {r : Reading} {entries : List Text}
    (h : ∀ e ∈ r.mapping.items, ∃ t, Entry.parse t = .ok e) :
    ∀ e ∈ (entries.foldl next r).mapping.items, ∃ t, Entry.parse t = .ok e := by
  induction entries generalizing r with
  | nil => exact h
  | cons entry entries ih => exact ih (parsed_of_mem_next h)

/-- Every entry is read, and each names a column that was not mapped before. -/
structure Clean (r : Reading) (entries : List Text) (es : List Entry) : Prop where
  parsed : List.Forall₂ (fun t e => Entry.parse t = .ok e) entries es
  distinct : (r.mapping.keys ++ es.map fun e => e.column.internal).Nodup

theorem foldl_of_clean {r : Reading} {entries : List Text} {es : List Entry}
    (h : Clean r entries es) :
    (entries.foldl next r).mapping.items = r.mapping.items ++ es ∧
      (entries.foldl next r).errors = r.errors := by
  obtain ⟨hparsed, hdistinct⟩ := h
  induction hparsed generalizing r with
  | nil => exact ⟨(List.append_nil _).symm, rfl⟩
  | @cons entry e entries es hentry _ ih =>
    have hk : e.column.internal ∉ r.mapping.keys := fun hk =>
      (List.nodup_append.1 hdistinct).2.2 _ hk _ List.mem_cons_self rfl
    obtain ⟨hitems, herrors⟩ := next_of_new hentry hk
    obtain ⟨hitems', herrors'⟩ := ih (r := r.next entry) (by
      rw [Roster.keys_concat hitems, List.append_assoc]
      exact hdistinct)
    rw [List.foldl_cons, hitems', herrors', hitems, herrors, List.append_assoc]
    exact ⟨rfl, rfl⟩

/-- A run that reports nothing new is clean. -/
theorem clean_of_foldl {r : Reading} {entries : List Text}
    (h : (entries.foldl next r).errors = r.errors) : ∃ es, Clean r entries es := by
  induction entries generalizing r with
  | nil => exact ⟨[], .nil, (List.append_nil r.mapping.keys).symm ▸ r.mapping.distinct⟩
  | cons entry entries ih =>
    have hfirst := errors_prefix_next r entry
    have hrest := errors_prefix_foldl (r.next entry) entries
    rw [List.foldl_cons] at h
    rw [h] at hrest
    have hsame : (r.next entry).errors = r.errors :=
      hrest.eq_of_length_le hfirst.length_le
    obtain ⟨e, hentry, hk⟩ := new_of_errors_eq hsame
    obtain ⟨es, hparsed, hdistinct⟩ := ih (h.trans hsame.symm)
    refine ⟨e :: es, .cons hentry hparsed, ?_⟩
    rw [Roster.keys_concat (next_of_new hentry hk).1, List.append_assoc] at hdistinct
    exact hdistinct

end Reading

/-- A text that is not blank is read entry by entry. -/
theorem read_of_strip_ne_nil {path t : Text} (h : strip t ≠ []) :
    read path t = (entryTexts t).foldl Reading.next .empty := by
  rw [read, if_neg h]

end TopicTables.Mapping
