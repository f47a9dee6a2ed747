import TopicTables.Proofs.Mapping.Reading

/-! What becomes of each entry of a mapping.

An entry that cannot be read is an error and names no column. An entry that can be read
names its column: the first one that does so is mapped, and each later one is an error.
`Accounts` says so of a list of entries, down to the texts of the errors. One more entry keeps
it (`Accounts.next`), so reading accounts for every entry of a text (`read_accounts`). -/
namespace TopicTables

/-- The column that an entry names; one that cannot be read names none. -/
def Entry.column? (t : Text) : Option Text :=
  (parse t).toOption.map fun e => e.column.internal

theorem Entry.column?_of_ok {t : Text} {e : Entry} (h : parse t = .ok e) :
    column? t = some e.column.internal := by
  simp [column?, h, Except.toOption]

theorem Entry.column?_of_error {t : Text} {error : EntryError} (h : parse t = .error error) :
    column? t = none := by
  simp [column?, h, Except.toOption]

namespace Mapping

/-- What is wrong with an entry that stands behind others. -/
def defect? (earlier : List Text) (t : Text) : Option MappingError :=
  match Entry.parse t with
  | .error e => some (.entry e)
  | .ok e => if some e.column.internal ∈ earlier.map Entry.column? then some (.repeated e.column)
    else none

/-- What is wrong with entries that stand behind others, one after the other. -/
def defects : List Text → List Text → List MappingError
  | _, [] => []
  | earlier, t :: rest => (defect? earlier t).toList ++ defects (earlier ++ [t]) rest

/-- What is said of an entry that stands behind others, if anything is: why it cannot be read,
or that its column is mapped already. -/
def complaint? (earlier : List Text) (t : Text) : Option Text :=
  match Entry.parse t with
  | .error e => some e.message
  | .ok e =>
    if some e.column.internal ∈ earlier.map Entry.column? then
      some ("Mapping references column ".toList ++ e.column.pretty ++ " more than once.".toList)
    else none

/-- What is said of entries, each behind those in front of it. -/
def complaints (entries : List Text) : List Text :=
  entries.zipIdx.filterMap fun e => complaint? (entries.take e.2) e.1

/-- The entry at a place is read, and no earlier one names its column. -/
structure FirstAt (entries : List Text) (i : Nat) (e : Entry) : Prop where
  parsed : entries[i]?.map Entry.parse = some (.ok e)
  unnamed : ∀ t ∈ entries.take i, Entry.column? t ≠ some e.column.internal

/-- What a reading says of the entries that it has seen. -/
structure Accounts (entries : List Text) (r : Reading) : Prop where
  /-- Each entry is mapped or reported, and none is both. -/
  total : r.mapping.items.length + r.errors.length = entries.length
  /-- What is mapped is the first entry of its column. -/
  mem_iff : ∀ e, e ∈ r.mapping.items ↔ ∃ i, FirstAt entries i e
  /-- What is mapped stands in the order of the entries. -/
  ordered : r.mapping.items.Pairwise fun e e' =>
    ∀ i j, FirstAt entries i e → FirstAt entries j e' → i < j
  /-- A column is mapped exactly if an entry that can be read names it. -/
  columns : ∀ column, column ∈ r.mapping.keys ↔ some column ∈ entries.map Entry.column?
  /-- What is reported are the other entries, in their order. -/
  errors : r.errors = defects [] entries
  /-- The texts of the errors are what is said of these entries. -/
  messages : r.errors.map MappingError.message = complaints entries

/-! ### One entry -/

section Step
variable {done : List Text} {t : Text} {i : Nat} {e : Entry} {r : Reading}

theorem defects_append (earlier front back : List Text) :
    defects earlier (front ++ back) = defects earlier front ++ defects (earlier ++ front) back := by
  induction front generalizing earlier with
  | nil => simp [defects]
  | cons u front ih => simp [defects, ih]

theorem defects_concat (earlier rest : List Text) (t : Text) :
    defects earlier (rest ++ [t]) = defects earlier rest ++ (defect? (earlier ++ rest) t).toList := by
  simp [defects_append, defects]

/-- Of the entries in front, only the columns that they name count. -/
theorem defects_congr {earlier earlier' : List Text}
    (h : ∀ column, some column ∈ earlier.map Entry.column? ↔
      some column ∈ earlier'.map Entry.column?) (rest : List Text) :
    defects earlier rest = defects earlier' rest := by
  induction rest generalizing earlier earlier' with
  | nil => rfl
  | cons t rest ih =>
    have hfirst : defect? earlier t = defect? earlier' t := by
      simp only [defect?, h]
    rw [defects, defects, hfirst, ih]
    intro column
    simp only [List.map_append, List.mem_append, h]

theorem mem_defects {earlier rest : List Text} {error : MappingError}
    (h : error ∈ defects earlier rest) : ∃ before, ∃ t ∈ rest, defect? before t = some error := by
  induction rest generalizing earlier with
  | nil => cases h
  | cons t rest ih =>
    rw [defects, List.mem_append, Option.mem_toList] at h
    rcases h with h | h
    · exact ⟨earlier, t, List.mem_cons_self, h⟩
    · obtain ⟨before, u, hu, hdefect⟩ := ih h
      exact ⟨before, u, List.mem_cons_of_mem t hu, hdefect⟩

/-- An entry that cannot be read is reported, whatever stands in front of it. -/
theorem mem_defects_of_error {entries : List Text} {t : Text} {e : EntryError} (ht : t ∈ entries)
    (h : Entry.parse t = .error e) (earlier : List Text) :
    .entry e ∈ defects earlier entries := by
  induction entries generalizing earlier with
  | nil => cases ht
  | cons u entries ih =>
    rw [defects, List.mem_append]
    rcases List.mem_cons.1 ht with rfl | ht
    · left
      rw [defect?, h]
      exact List.mem_singleton.2 rfl
    · exact .inr (ih ht _)

theorem map_message_defect? (earlier : List Text) (t : Text) :
    (defect? earlier t).map MappingError.message = complaint? earlier t := by
  rw [defect?, complaint?]
  split
  · rfl
  · split <;> rfl

/-- One more entry is said something of behind all others. -/
theorem complaints_concat (rest : List Text) (t : Text) :
    complaints (rest ++ [t]) = complaints rest ++ (complaint? rest t).toList := by
  have hrest : ∀ e ∈ rest.zipIdx, complaint? ((rest ++ [t]).take e.2) e.1 =
      complaint? (rest.take e.2) e.1 := by
    intro e he
    rw [List.take_append_of_le_length (List.snd_lt_of_mem_zipIdx he).le]
  rw [complaints, List.zipIdx_append, List.filterMap_append, List.filterMap_congr hrest, complaints]
  cases h : complaint? rest t <;> simp [h]

/-- The texts of what is wrong with entries are what is said of them. -/
theorem map_message_of_errors {errors : List MappingError} {entries : List Text}
    (h : errors = defects [] entries) : errors.map MappingError.message = complaints entries := by
  subst h
  induction entries using List.reverseRecOn with
  | nil => rfl
  | append_singleton rest t ih =>
    rw [defects_concat, List.map_append, ih, complaints_concat, List.nil_append,
      ← map_message_defect?]
    cases defect? rest t <;> rfl

theorem FirstAt.lt_length (h : FirstAt done i e) : i < done.length := by
  obtain ⟨t, ht, -⟩ := Option.map_eq_some_iff.1 h.parsed
  exact (List.getElem?_eq_some_iff.1 ht).1

/-- A first entry names its column. -/
theorem FirstAt.mem_columns (h : FirstAt done i e) :
    some e.column.internal ∈ done.map Entry.column? := by
  obtain ⟨t, ht, hparse⟩ := Option.map_eq_some_iff.1 h.parsed
  rw [← Entry.column?_of_ok hparse]
  exact List.mem_map_of_mem (List.mem_of_getElem? ht)

/-- One more entry is a first one if no other names its column, and otherwise the first ones
stay what they are. -/
theorem firstAt_concat_iff : FirstAt (done ++ [t]) i e ↔ FirstAt done i e ∨
    (i = done.length ∧ Entry.parse t = .ok e ∧
      some e.column.internal ∉ done.map Entry.column?) := by
  constructor
  · intro h
    have hlength := h.lt_length
    obtain ⟨hparsed, hunnamed⟩ := h
    by_cases hi : i < done.length
    · rw [List.getElem?_append_left hi] at hparsed
      rw [List.take_append_of_le_length hi.le] at hunnamed
      exact .inl ⟨hparsed, hunnamed⟩
    · obtain rfl : i = done.length := by simp at hlength; omega
      refine .inr ⟨rfl, by simpa using hparsed, fun hmem => ?_⟩
      obtain ⟨u, hu, hcolumn⟩ := List.mem_map.1 hmem
      exact hunnamed u (by simpa using hu) hcolumn
  · intro h
    rcases h with h | ⟨rfl, hparse, hnew⟩
    · have hi := h.lt_length
      refine ⟨?_, ?_⟩
      · rw [List.getElem?_append_left hi]
        exact h.parsed
      · rw [List.take_append_of_le_length hi.le]
        exact h.unnamed
    · refine ⟨by simpa using hparse, fun u hu hcolumn => hnew ?_⟩
      rw [← hcolumn]
      exact List.mem_map_of_mem (by simpa using hu)

namespace Accounts

/-- An entry that is reported maps no column and takes none. -/
theorem report (h : Accounts done r) {error : MappingError} (herror : defect? done t = some error)
    (htaken : ∀ e, Entry.parse t = .ok e → some e.column.internal ∈ done.map Entry.column?) :
    Accounts (done ++ [t]) { r with errors := r.errors ++ [error] } := by
  have hfirst : ∀ {i e}, FirstAt (done ++ [t]) i e ↔ FirstAt done i e := by
    intro i e
    rw [firstAt_concat_iff]
    exact or_iff_left fun hnew => hnew.2.2 (htaken e hnew.2.1)
  have herrors : r.errors ++ [error] = defects [] (done ++ [t]) := by
    rw [defects_concat, List.nil_append, herror, ← h.errors]
    rfl
  refine ⟨?_, fun e => ?_, ?_, fun column => ?_, herrors, map_message_of_errors herrors⟩
  · have htotal := h.total
    simp
    omega
  · simp only [hfirst]
    exact h.mem_iff e
  · simp only [hfirst]
    exact h.ordered
  · rw [h.columns, List.map_append, List.mem_append]
    refine (or_iff_left_of_imp fun hlast => ?_).symm
    cases hparse : Entry.parse t with
    | error _ => simp [Entry.column?_of_error hparse] at hlast
    | ok e =>
      obtain rfl : column = e.column.internal := by
        simpa [Entry.column?_of_ok hparse] using hlast
      exact htaken e hparse

/-- The first entry of a column is mapped behind all others. -/
theorem map (h : Accounts done r) (hparse : Entry.parse t = .ok e)
    (hnew : some e.column.internal ∉ done.map Entry.column?) {r' : Reading}
    (hitems : r'.mapping.items = r.mapping.items ++ [e]) (herrors : r'.errors = r.errors) :
    Accounts (done ++ [t]) r' := by
  have hlast : ∀ {j}, FirstAt (done ++ [t]) j e → j = done.length := by
    intro j hj
    rcases firstAt_concat_iff.1 hj with hj | ⟨hj, -⟩
    · exact absurd hj.mem_columns hnew
    · exact hj
  have hearlier : ∀ {i a}, a ∈ r.mapping.items → FirstAt (done ++ [t]) i a → FirstAt done i a := by
    intro i a ha hi
    rcases firstAt_concat_iff.1 hi with hi | ⟨-, -, hfree⟩
    · exact hi
    · obtain ⟨_, hfirst⟩ := (h.mem_iff a).1 ha
      exact absurd hfirst.mem_columns hfree
  have hdefect : defect? done t = none := by
    rw [defect?, hparse]
    exact if_neg hnew
  have hdefects : r'.errors = defects [] (done ++ [t]) := by
    rw [herrors, h.errors, defects_concat, List.nil_append, hdefect]
    simp
  refine ⟨?_, fun a => ?_, ?_, fun column => ?_, hdefects, map_message_of_errors hdefects⟩
  · have htotal := h.total
    rw [hitems, herrors]
    simp
    omega
  · rw [hitems, List.mem_append, List.mem_singleton, h.mem_iff]
    simp only [firstAt_concat_iff, exists_or, exists_eq_left, hparse, Except.ok.injEq]
    refine or_congr_right ⟨?_, fun heq => heq.1.symm⟩
    rintro rfl
    exact ⟨rfl, hnew⟩
  · rw [hitems, List.pairwise_append]
    refine ⟨?_, List.pairwise_singleton _ _, fun a ha b hb i j hi hj => ?_⟩
    · refine h.ordered.imp_of_mem fun ha hb hlt i j hi hj => ?_
      exact hlt i j (hearlier ha hi) (hearlier hb hj)
    · obtain rfl := List.mem_singleton.1 hb
      rw [hlast hj]
      exact (hearlier ha hi).lt_length
  · rw [Roster.keys_concat hitems, List.mem_append, h.columns, List.map_append, List.mem_append]
    simp [Entry.column?_of_ok hparse]

/-- **Reading one more entry accounts for it**, whatever it is. -/
theorem next (h : Accounts done r) (t : Text) : Accounts (done ++ [t]) (r.next t) := by
  cases hparse : Entry.parse t with
  | error e =>
    rw [Reading.next_of_error hparse]
    refine h.report (by rw [defect?, hparse]) fun e' he => ?_
    rw [hparse] at he
    cases he
  | ok e =>
    by_cases hk : e.column.internal ∈ r.mapping.keys
    · have htaken := (h.columns _).1 hk
      rw [Reading.next_of_repeated hparse hk]
      refine h.report (by rw [defect?, hparse]; exact if_pos htaken) fun e' he => ?_
      rw [hparse] at he
      cases he
      exact htaken
    · obtain ⟨hitems, herrors⟩ := Reading.next_of_new hparse hk
      exact h.map hparse (mt (h.columns _).2 hk) hitems herrors

/-! ### All entries -/

theorem empty : Accounts [] .empty := by
  refine ⟨rfl, fun e => ?_, .nil, by simp [Reading.empty], rfl, rfl⟩
  simp only [Reading.empty, Roster.items_empty, List.not_mem_nil, false_iff, not_exists]
  exact fun i hi => absurd hi.lt_length (by simp)

theorem foldl (h : Accounts done r) (entries : List Text) :
    Accounts (done ++ entries) (entries.foldl Reading.next r) := by
  induction entries generalizing done r with
  | nil => simpa using h
  | cons t entries ih =>
    rw [List.append_cons]
    exact ih (h.next t)

end Accounts
end Step

/-- A text that is not blank is reported on entry by entry. -/
theorem errors_read {t : Text} (h : strip t ≠ []) (path : Text) :
    (read path t).errors = defects [] (entryTexts t) := by
  rw [read_of_strip_ne_nil h]
  exact (Accounts.empty.foldl (entryTexts t)).errors

/-- **Reading accounts for every entry of a text once**, and the first entry of a column
wins; one that cannot be read takes no column. -/
theorem read_accounts {t : Text} (h : strip t ≠ []) (path : Text) :
    Accounts (entryTexts t) (read path t) := by
  rw [read_of_strip_ne_nil h]
  exact Accounts.empty.foldl (entryTexts t)

/-- A column that is named before by an entry that cannot be read, and behind that three
times in different spellings. -/
theorem read_accounts_six :
    ∃ t : Text, strip t ≠ [] ∧ (entryTexts t).length = 6 ∧ Accounts (entryTexts t) (read [] t) ∧
      (read [] t).mapping.items.map Entry.render = ["a=value.x".toList, "b=key.__self".toList] ∧
      (read [] t).errors = [.entry (.badField (.noPart "x".toList)),
        .repeated (.quoted "a".toList), .entry .empty, .repeated (.unquoted "a".toList)] ∧
      (read [] t).errors.map MappingError.message =
        ["Invalid field name 'x': field names in mapping must be 'key', 'value', ".toList
            ++ "or start with 'key.' or 'value.'.".toList,
          "Mapping references column a more than once.".toList,
          "Empty mapping entry; remove the extra ','.".toList,
          "Mapping references column a more than once.".toList] := by
  have ht : strip "a=x, A=value.x,\"a\"=key,b=key,,a=value.x".toList ≠ [] := by decide
  exact ⟨_, ht, by decide, read_accounts ht [], by decide, by decide, by decide⟩

end Mapping
end TopicTables
