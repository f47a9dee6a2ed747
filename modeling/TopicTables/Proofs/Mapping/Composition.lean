import TopicTables.Proofs.Mapping.Reading
import TopicTables.Proofs.Text.Margin
import TopicTables.Proofs.Text.Pieces

/-! Mappings written one behind the other.

A text whose quotes pair up may stand in front of another with a comma between them. The
two together are read as one after the other: what the second maps and reports by itself
is mapped and reported again, except that a column of the first text is not mapped a
second time but reported. `Follows` says so of three readings. One more entry of the
second text keeps it (`Follows.next`), whatever the entry is, so it holds of whole texts
(`read_append`). -/
namespace TopicTables.Mapping

/-- What a reading says of the entries of two texts, told by the readings of each. -/
structure Follows (first second both : Reading) : Prop where
  /-- The columns of the first text stay, and those of the second come behind them unless
  the first has them. -/
  items : both.mapping.items = first.mapping.items ++
    second.mapping.items.filter fun e => e.column.internal ∉ first.mapping.keys
  /-- What is reported of each text stays reported, in this order. -/
  errors : (first.errors ++ second.errors).Sublist both.errors
  /-- A column of both texts is one more error. -/
  length : both.errors.length = first.errors.length + second.errors.length +
    (second.mapping.keys.filter fun column => column ∈ first.mapping.keys).length

namespace Follows
variable {first second both : Reading}

/-! ### One entry of the second text -/

/-- Behind a first text, the columns are those of either. -/
theorem mem_keys (h : Follows first second both) (column : Text) :
    column ∈ both.mapping.keys ↔ column ∈ first.mapping.keys ∨ column ∈ second.mapping.keys := by
  have hkeys : both.mapping.keys = first.mapping.keys ++
      second.mapping.keys.filter fun k => k ∉ first.mapping.keys := by
    simp only [Roster.keys, h.items, List.map_append, List.filter_map, Function.comp_def]
  rw [hkeys, List.mem_append, List.mem_filter, decide_eq_true_iff]
  by_cases hc : column ∈ first.mapping.keys <;> simp [hc]

theorem report (h : Follows first second both) (error : MappingError) :
    Follows first { second with errors := second.errors ++ [error] }
      { both with errors := both.errors ++ [error] } := by
  refine ⟨h.items, ?_, ?_⟩
  · show (first.errors ++ (second.errors ++ [error])).Sublist (both.errors ++ [error])
    rw [← List.append_assoc]
    exact h.errors.append_right [error]
  · have hlength := h.length
    simp only [List.length_append]
    omega

/-- A column of the first text, named again: by itself it would be mapped. -/
theorem repeated (h : Follows first second both) {second' : Reading} {e : Entry}
    (hk : e.column.internal ∈ first.mapping.keys)
    (hitems : second'.mapping.items = second.mapping.items ++ [e])
    (herrors : second'.errors = second.errors) (error : MappingError) :
    Follows first second' { both with errors := both.errors ++ [error] } := by
  refine ⟨?_, ?_, ?_⟩
  · simp [h.items, hitems, hk]
  · rw [herrors]
    exact h.errors.trans (List.sublist_append_left both.errors [error])
  · have hlength := h.length
    simp [Roster.keys_concat hitems, List.filter_append, herrors, hk]
    omega

/-- A column that neither text has named is mapped behind all others. -/
theorem map (h : Follows first second both) {second' both' : Reading} {e : Entry}
    (hk : e.column.internal ∉ first.mapping.keys)
    (hitems : second'.mapping.items = second.mapping.items ++ [e])
    (herrors : second'.errors = second.errors)
    (hitems' : both'.mapping.items = both.mapping.items ++ [e])
    (herrors' : both'.errors = both.errors) : Follows first second' both' := by
  refine ⟨?_, ?_, ?_⟩
  · simp [h.items, hitems, hitems', hk]
  · rw [herrors, herrors']
    exact h.errors
  · rw [herrors', Roster.keys_concat hitems, List.filter_append, herrors, h.length]
    simp [hk]

/-- **One more entry of the second text keeps the three readings in step.** -/
theorem next (h : Follows first second both) (t : Text) :
    Follows first (second.next t) (both.next t) := by
  cases hparse : Entry.parse t with
  | error e =>
    rw [Reading.next_of_error hparse, Reading.next_of_error hparse]
    exact h.report (.entry e)
  | ok e =>
    by_cases hsecond : e.column.internal ∈ second.mapping.keys
    · rw [Reading.next_of_repeated hparse hsecond,
        Reading.next_of_repeated hparse ((h.mem_keys _).2 (.inr hsecond))]
      exact h.report (.repeated e.column)
    · obtain ⟨hitems, herrors⟩ := Reading.next_of_new hparse hsecond
      by_cases hfirst : e.column.internal ∈ first.mapping.keys
      · rw [Reading.next_of_repeated hparse ((h.mem_keys _).2 (.inl hfirst))]
        exact h.repeated hfirst hitems herrors (.repeated e.column)
      · have hboth : e.column.internal ∉ both.mapping.keys := fun hk =>
          ((h.mem_keys _).1 hk).elim hfirst hsecond
        obtain ⟨hitems', herrors'⟩ := Reading.next_of_new hparse hboth
        exact h.map hfirst hitems herrors hitems' herrors'

/-! ### The whole second text -/

/-- Behind a first text, nothing has been read of the second. -/
theorem empty (first : Reading) : Follows first .empty first :=
  ⟨by simp [Reading.empty], by simp [Reading.empty], by simp [Reading.empty]⟩

theorem foldl (h : Follows first second both) (entries : List Text) :
    Follows first (entries.foldl Reading.next second) (entries.foldl Reading.next both) := by
  induction entries generalizing second both with
  | nil => exact h
  | cons t entries ih => exact ih (h.next t)

/-- Texts that share no column are simply read one after the other. -/
theorem apart (h : Follows first second both)
    (hkeys : List.Disjoint first.mapping.keys second.mapping.keys) :
    both.mapping.items = first.mapping.items ++ second.mapping.items ∧
      both.errors = first.errors ++ second.errors := by
  have hnew : ∀ k ∈ second.mapping.keys, k ∉ first.mapping.keys := fun k hk hfirst => hkeys hfirst hk
  constructor
  · rw [h.items, List.filter_eq_self.2]
    intro e he
    exact decide_eq_true (hnew _ (Roster.key_mem_keys he))
  · have hnone : second.mapping.keys.filter (fun k => k ∈ first.mapping.keys) = [] := by
      simpa using hnew
    have hlength := h.length
    rw [hnone, List.length_nil, Nat.add_zero, ← List.length_append] at hlength
    exact (h.errors.eq_of_length hlength.symm).symm

end Follows

theorem entryTexts_append {a : Text} (h : Quoted.isClosed a = true) (b : Text) :
    entryTexts (a ++ ',' :: b) = entryTexts a ++ entryTexts b := by
  rw [entryTexts, Quoted.splitOutside_append (by decide) h, List.map_append]
  rfl

/-- **A mapping behind a comma is read as it is by itself**, whatever is wrong with it,
except that the columns in front of the comma are taken; without such a column, the two
readings stand one behind the other. -/
theorem read_append {a b : Text} (ha : strip a ≠ []) (hb : strip b ≠ [])
    (hclosed : Quoted.isClosed a = true) (path : Text) :
    Follows (read path a) (read path b) (read path (a ++ ',' :: b)) ∧
      (List.Disjoint (read path a).mapping.keys (read path b).mapping.keys →
        (read path (a ++ ',' :: b)).mapping.items =
            (read path a).mapping.items ++ (read path b).mapping.items ∧
          (read path (a ++ ',' :: b)).errors = (read path a).errors ++ (read path b).errors) := by
  have hcomma : strip (a ++ ',' :: b) ≠ [] :=
    strip_ne_nil_of_mem (List.mem_append_right a List.mem_cons_self) (by decide)
  have hfollows : Follows (read path a) (read path b) (read path (a ++ ',' :: b)) := by
    rw [read_of_strip_ne_nil ha, read_of_strip_ne_nil hb, read_of_strip_ne_nil hcomma,
      entryTexts_append hclosed, List.foldl_append]
    exact (Follows.empty _).foldl (entryTexts b)
  exact ⟨hfollows, hfollows.apart⟩

/-- Behind a mapping with a comma in a name and a repeated column: a text with an unclosed
quote and a column of the first, and what is left of that text without the column. -/
theorem read_append_unclosed : ∃ a b c : Text,
    strip a ≠ [] ∧ strip b ≠ [] ∧ strip c ≠ [] ∧ Quoted.isClosed a = true ∧
      Quoted.isClosed b = false ∧ b = "D=key,".toList ++ c ∧
      Follows (read [] a) (read [] b) (read [] (a ++ ',' :: b)) ∧
      (read [] (a ++ ',' :: b)).errors = [.repeated (.unquoted "d".toList),
        .repeated (.unquoted "D".toList), .entry (.unterminated "e=value.\"x".toList)] ∧
      List.Disjoint (read [] a).mapping.keys (read [] c).mapping.keys ∧
      (read [] (a ++ ',' :: c)).mapping.items =
        (read [] a).mapping.items ++ (read [] c).mapping.items ∧
      (read [] (a ++ ',' :: c)).errors = (read [] a).errors ++ (read [] c).errors := by
  have ha : strip "\"a,b\"=key,d=value.x,d=key".toList ≠ [] := by decide
  have hb : strip "D=key,e=value.\"x, f=value".toList ≠ [] := by decide
  have hc : strip "e=value.\"x, f=value".toList ≠ [] := by decide
  have hclosed : Quoted.isClosed "\"a,b\"=key,d=value.x,d=key".toList = true := by decide
  have hkeys : List.Disjoint (read [] "\"a,b\"=key,d=value.x,d=key".toList).mapping.keys
      (read [] "e=value.\"x, f=value".toList).mapping.keys := by
    rw [List.disjoint_left]
    decide
  exact ⟨_, _, _, ha, hb, hc, hclosed, by decide, by decide, (read_append ha hb hclosed []).1,
    by decide, hkeys, (read_append ha hc hclosed []).2 hkeys⟩

end TopicTables.Mapping
