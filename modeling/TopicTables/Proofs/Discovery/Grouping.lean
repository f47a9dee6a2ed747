import TopicTables.Discovery.Basic
import TopicTables.Proofs.Discovery.Key
import TopicTables.Proofs.Roster

/-! Gathering the settings of a bag by table.

What has been gathered from part of a bag is described by `Gathered`: each table that a
key was read for has one draft, which holds the settings of that table in their order,
and the drafts stand in the order in which their tables appeared. One more setting keeps
this (`Gathered.step`), and so does a whole bag (`gathered_group`). Reading a key undoes
writing it, so where no key ends in a line break the drafts are told by the paths of
settings alone (`group_by_path`). -/
namespace TopicTables

/-- The table that a key is read for. -/
def SettingKey.owner? (key : Text) : Option Address := (read? key).map address

/-- The setting of a bag is read for the table. -/
def Address.receives (a : Address) (e : Text × Value) : Bool := SettingKey.owner? e.1 = some a

theorem Address.receives_iff {a : Address} {e : Text × Value} :
    a.receives e = true ↔ SettingKey.owner? e.1 = some a := by
  simp [receives]

/-- What holds once some settings have been gathered. -/
structure Drafts.Gathered (done : List (Text × Value)) (drafts : Drafts) : Prop where
  /-- A draft holds the settings of its table, in the order of their arrival. -/
  settings : ∀ d ∈ drafts.items, d.settings.items = done.filter d.address.receives
  /-- The tables that have a draft are those that have a setting. -/
  mem_keys : ∀ a, a ∈ drafts.keys ↔ ∃ e ∈ done, a.receives e = true
  /-- A table whose first setting arrived earlier stands earlier. -/
  ordered : drafts.keys.Pairwise fun a b => done.findIdx a.receives < done.findIdx b.receives

/-! ### One setting -/

namespace Drafts

theorem gather_of_foreign {e : Text × Value} (h : SettingKey.owner? e.1 = none) (drafts : Drafts) :
    drafts.gather e = drafts := by
  rw [gather, Option.map_eq_none_iff.1 h]

/-- The draft that a setting of a table goes into. -/
def draftOf (drafts : Drafts) (a : Address) : Draft := (drafts.find? a).getD (Draft.start a)

theorem gather_of_owner {e : Text × Value} {a : Address} (h : SettingKey.owner? e.1 = some a)
    (drafts : Drafts) : drafts.gather e = drafts.put ((drafts.draftOf a).set e.1 e.2) := by
  obtain ⟨k, hk, rfl⟩ := Option.map_eq_some_iff.1 h
  rw [gather, hk]
  rfl

theorem draftOf_address (drafts : Drafts) (a : Address) : (drafts.draftOf a).address = a := by
  rw [draftOf]
  cases hfind : drafts.find? a with
  | none => rfl
  | some d => exact (Roster.mem_of_find? hfind).2

namespace Gathered
variable {done : List (Text × Value)} {drafts : Drafts}

theorem settings_draftOf (h : Gathered done drafts) (a : Address) :
    (drafts.draftOf a).settings.items = done.filter a.receives := by
  rw [draftOf]
  cases hfind : drafts.find? a with
  | none =>
    have hnone : done.filter a.receives = [] := List.filter_eq_nil_iff.2 fun e he hown =>
      Roster.find?_eq_none_iff.1 hfind ((h.mem_keys a).2 ⟨e, he, hown⟩)
    rw [hnone]
    rfl
  | some d =>
    obtain ⟨hd, rfl⟩ := Roster.mem_of_find? hfind
    exact h.settings d hd

/-- A setting that is put into its draft goes behind those that are there. -/
theorem settings_set (h : Gathered done drafts) {e : Text × Value} {a : Address}
    (hown : a.receives e = true) (hnew : e.1 ∉ done.map Prod.fst) :
    ((drafts.draftOf a).set e.1 e.2).settings.items = (done ++ [e]).filter a.receives := by
  have hitems := h.settings_draftOf a
  have habsent : e.1 ∉ (drafts.draftOf a).settings.keys := by
    rw [Roster.keys, hitems]
    exact fun hmem => hnew (List.map_subset Prod.fst (List.filter_subset_self done) hmem)
  rw [List.filter_append, List.filter_cons_of_pos hown, List.filter_nil, ← hitems]
  exact Roster.items_put_of_not_mem habsent

/-- A new setting does not change when the tables before it appeared. -/
theorem findIdx_concat (h : Gathered done drafts) {a : Address} (ha : a ∈ drafts.keys)
    (e : Text × Value) : (done ++ [e]).findIdx a.receives = done.findIdx a.receives := by
  have hfirst := List.findIdx_lt_length.2 ((h.mem_keys a).1 ha)
  rw [List.findIdx_append, if_pos hfirst]

theorem ordered_concat (h : Gathered done drafts) (e : Text × Value) :
    drafts.keys.Pairwise fun a b =>
      (done ++ [e]).findIdx a.receives < (done ++ [e]).findIdx b.receives := by
  refine List.Pairwise.imp_of_mem (fun ha hb hlt => ?_) h.ordered
  rw [h.findIdx_concat ha e, h.findIdx_concat hb e]
  exact hlt

/-- A table that appears with a new setting stands behind all others. -/
theorem ordered_concat_new (h : Gathered done drafts) (e : Text × Value) {a : Address}
    (ha : a ∉ drafts.keys) :
    (drafts.keys ++ [a]).Pairwise fun a b =>
      (done ++ [e]).findIdx a.receives < (done ++ [e]).findIdx b.receives := by
  rw [List.pairwise_append]
  refine ⟨h.ordered_concat e, List.pairwise_singleton _ _, fun b hb c hc => ?_⟩
  obtain rfl := List.mem_singleton.1 hc
  have hnone : ¬ done.findIdx c.receives < done.length := fun hlt =>
    ha ((h.mem_keys c).2 (List.findIdx_lt_length.1 hlt))
  have hfirst := List.findIdx_lt_length.2 ((h.mem_keys b).1 hb)
  rw [h.findIdx_concat hb e, List.findIdx_append, if_neg hnone]
  omega

/-- **Gathering one more setting, of a new key, keeps the drafts as they should be.** -/
theorem step (h : Gathered done drafts) {e : Text × Value} (hnew : e.1 ∉ done.map Prod.fst) :
    Gathered (done ++ [e]) (drafts.gather e) := by
  cases hown : SettingKey.owner? e.1 with
  | none =>
    have hforeign : ∀ a : Address, a.receives e = false := fun a => by simp [Address.receives, hown]
    rw [gather_of_foreign hown]
    refine ⟨fun d hd => ?_, fun a => ?_, h.ordered_concat e⟩
    · simp [h.settings d hd, hforeign]
    · simp [h.mem_keys a, or_and_right, exists_or, hforeign]
  | some a =>
    have hiff : ∀ b : Address, b.receives e = true ↔ b = a := fun b => by
      rw [Address.receives_iff, hown, Option.some_inj, eq_comm]
    have hkey : ((drafts.draftOf a).set e.1 e.2).address = a := drafts.draftOf_address a
    rw [gather_of_owner hown]
    refine ⟨fun d hd => ?_, fun b => ?_, ?_⟩
    · rcases Roster.mem_put.1 hd with rfl | ⟨hd, hother⟩
      · rw [hkey]
        exact h.settings_set ((hiff a).2 rfl) hnew
      · have hforeign : d.address.receives e = false :=
          Bool.eq_false_iff.2 fun hd => hother (((hiff _).1 hd).trans hkey.symm)
        simp [h.settings d hd, hforeign]
    · rw [Roster.mem_keys_put, hkey, h.mem_keys b, ← hiff b]
      simp [or_and_right, exists_or]
    · rw [Roster.keys_put, hkey]
      split
      · exact h.ordered_concat e
      · next hfree =>
        exact h.ordered_concat_new e fun ha => hfree ((Roster.contains_iff drafts a).2 ha)

/-! ### A whole bag -/

theorem foldl (h : Gathered done drafts) {rest : List (Text × Value)}
    (hdistinct : ((done ++ rest).map Prod.fst).Nodup) :
    Gathered (done ++ rest) (rest.foldl gather drafts) := by
  induction rest generalizing done drafts with
  | nil =>
    rw [List.append_nil]
    exact h
  | cons e rest ih =>
    have hnew : e.1 ∉ done.map Prod.fst := by
      rw [List.map_append, List.nodup_append] at hdistinct
      exact fun hmem => hdistinct.2.2 _ hmem _ List.mem_cons_self rfl
    rw [List.append_cons] at hdistinct ⊢
    exact ih (h.step hnew) hdistinct

end Gathered
end Drafts

/-- **Grouping gathers each setting of a bag under the table that its key is read for.** -/
theorem gathered_group (bag : Bag) : (group bag).Gathered bag.items := by
  have hempty : Drafts.Gathered [] ∅ := ⟨by simp, by simp, by simp⟩
  exact hempty.foldl bag.distinct

/-! ### Tables and their paths -/

/-- The key is the path of a setting of the table. -/
def Address.Owns (a : Address) (key : Text) : Prop := ∃ s, key = a.path s

instance (a : Address) : DecidablePred a.Owns := fun key =>
  decidable_of_iff (∃ s ∈ TableSetting.settings, key = a.path s)
    ⟨fun ⟨s, _, h⟩ => ⟨s, h⟩, fun ⟨s, h⟩ => ⟨s, s.mem_settings, h⟩⟩

/-- A path of a table is read for that table. -/
theorem Address.receives_path {a : Address} (ha : a.Admissible) {e : Text × Value}
    (h : a.Owns e.1) : a.receives e = true := by
  obtain ⟨s, hs⟩ := h
  have hread : SettingKey.read? e.1 = some ⟨a, s⟩ := SettingKey.read?_eq_some_iff.2 ⟨ha, .inl hs⟩
  rw [receives_iff, SettingKey.owner?, hread]
  rfl

theorem Address.admissible_of_receives {a : Address} {e : Text × Value}
    (h : a.receives e = true) : a.Admissible := by
  obtain ⟨k, hk, rfl⟩ := Option.map_eq_some_iff.1 (receives_iff.1 h)
  exact (SettingKey.read?_eq_some_iff.1 hk).1

/-- Without a line break at its end, a key is read for a table only if it is one of its
paths. -/
theorem Address.owns_of_receives {a : Address} {e : Text × Value}
    (hend : e.1.getLast? ≠ some '\n') (h : a.receives e = true) : a.Owns e.1 := by
  obtain ⟨k, hk, rfl⟩ := Option.map_eq_some_iff.1 (receives_iff.1 h)
  rcases (SettingKey.read?_eq_some_iff.1 hk).2 with hpath | hbreak
  · exact ⟨k.setting, hpath⟩
  · rw [hbreak, List.getLast?_concat] at hend
    exact absurd rfl hend

/-- Only tables whose names can be written get a draft. -/
theorem Draft.admissible {bag : Bag} {d : Draft} (h : d ∈ (group bag).items) :
    d.address.Admissible := by
  obtain ⟨e, -, hown⟩ := ((gathered_group bag).mem_keys d.address).1 (Roster.key_mem_keys h)
  exact Address.admissible_of_receives hown

theorem admissible_of_mem_keys {bag : Bag} {a : Address} (h : a ∈ (group bag).keys) :
    a.Admissible := by
  obtain ⟨d, hd, rfl⟩ := List.mem_map.1 h
  exact Draft.admissible hd

theorem Draft.owner?_of_mem {bag : Bag} {d : Draft} (hd : d ∈ (group bag).items) {key : Text}
    (h : key ∈ d.settings.keys) : SettingKey.owner? key = some d.address := by
  rw [Roster.keys, (gathered_group bag).settings d hd] at h
  obtain ⟨e, he, rfl⟩ := List.mem_map.1 h
  exact Address.receives_iff.1 (List.mem_filter.1 he).2

theorem mem_keys_group {bag : Bag} (hends : ∀ key ∈ bag.keys, key.getLast? ≠ some '\n')
    (a : Address) :
    a ∈ (group bag).keys ↔ a.Admissible ∧ ∃ key ∈ bag.keys, a.Owns key := by
  rw [(gathered_group bag).mem_keys a]
  constructor
  · intro h
    obtain ⟨e, he, hown⟩ := h
    have hkey := Roster.key_mem_keys he
    exact ⟨Address.admissible_of_receives hown, e.1, hkey,
      Address.owns_of_receives (hends e.1 hkey) hown⟩
  · intro h
    obtain ⟨ha, key, hkey, hown⟩ := h
    obtain ⟨e, he, rfl⟩ := List.mem_map.1 hkey
    exact ⟨e, he, Address.receives_path ha hown⟩

/-- The drafts are the tables that a bag has settings of, told by their paths alone. -/
structure Drafts.TablesOf (bag : Bag) (drafts : Drafts) : Prop where
  /-- The tables that have a draft are those of which the bag holds a path. -/
  mem_keys : ∀ a, a ∈ drafts.keys ↔ a.Admissible ∧ ∃ key ∈ bag.keys, a.Owns key
  /-- A draft holds what the bag has under the paths of its table, in the same order. -/
  settings : ∀ d ∈ drafts.items,
    d.settings.items = bag.items.filter fun e => d.address.Owns e.1
  /-- A table of which an earlier key is a path stands earlier. -/
  ordered : drafts.keys.Pairwise fun a b =>
    bag.keys.findIdx (fun key => a.Owns key) < bag.keys.findIdx (fun key => b.Owns key)
  /-- No key stands in two drafts. -/
  separate : ∀ d ∈ drafts.items, ∀ e ∈ drafts.items, ∀ key ∈ d.settings.keys,
    key ∈ e.settings.keys → d = e

theorem findIdx_congr {α : Type} {p q : α → Bool} {l : List α} (h : ∀ a ∈ l, p a = q a) :
    l.findIdx p = l.findIdx q := by
  induction l with
  | nil => rfl
  | cons a l ih =>
    rw [List.findIdx_cons, List.findIdx_cons, h a List.mem_cons_self,
      ih fun b hb => h b (List.mem_cons_of_mem a hb)]

theorem tablesOf_group {bag : Bag} (hends : ∀ key ∈ bag.keys, key.getLast? ≠ some '\n') :
    (group bag).TablesOf bag := by
  have hgathered := gathered_group bag
  have hmem := mem_keys_group hends
  have howns : ∀ a : Address, a.Admissible → ∀ e ∈ bag.items,
      a.receives e = decide (a.Owns e.1) := by
    intro a ha e he
    rw [Bool.eq_iff_iff, decide_eq_true_iff]
    exact ⟨Address.owns_of_receives (hends e.1 (Roster.key_mem_keys he)), Address.receives_path ha⟩
  refine ⟨hmem, fun d hd => ?_, ?_, fun d hd e he key hkey hkey' => ?_⟩
  · rw [hgathered.settings d hd]
    exact List.filter_congr (howns d.address (Draft.admissible hd))
  · refine List.Pairwise.imp_of_mem (fun {a b} ha hb hlt => ?_) hgathered.ordered
    rw [Roster.keys, List.findIdx_map, List.findIdx_map]
    rwa [findIdx_congr (howns a ((hmem a).1 ha).1), findIdx_congr (howns b ((hmem b).1 hb).1)] at hlt
  · have hsame := (Draft.owner?_of_mem hd hkey).symm.trans (Draft.owner?_of_mem he hkey')
    exact Roster.eq_of_key_eq hd he (Option.some.inj hsame)

/-- A bag with one setting of a table has one draft, which holds it. -/
theorem group_of_receives {a : Address} {key : Text} {value : Value}
    (h : a.receives (key, value) = true) :
    (group (Bag.set ∅ key value)).items = [(Draft.start a).set key value] := by
  have hbag : (Bag.set ∅ key value).items = [(key, value)] :=
    Roster.items_put_of_not_mem List.not_mem_nil
  have hempty : (∅ : Drafts).draftOf a = Draft.start a := rfl
  rw [group, hbag, List.foldl_cons, List.foldl_nil,
    Drafts.gather_of_owner (Address.receives_iff.1 h), hempty]
  exact Roster.items_put_of_not_mem List.not_mem_nil

/-- **Grouping undoes the writing of paths.** A path is written for one setting of one
table, and the tables of a bag are gathered from exactly their own paths. -/
theorem group_by_path :
    (∀ a b : Address, a.Admissible → b.Admissible →
      ∀ s t, a.path s = b.path t → a = b ∧ s = t) ∧
      ∀ bag : Bag, (∀ key ∈ bag.keys, key.getLast? ≠ some '\n') → (group bag).TablesOf bag := by
  refine ⟨fun a b ha hb s t h => ?_, fun bag => tablesOf_group⟩
  have hread : SettingKey.read? (a.path s) = some ⟨a, s⟩ :=
    SettingKey.read?_eq_some_iff.2 ⟨ha, .inl rfl⟩
  rw [SettingKey.read?_eq_some_iff (k := ⟨b, t⟩) |>.2 ⟨hb, .inl h⟩] at hread
  cases hread
  exact ⟨rfl, rfl⟩

/-- Two tables that differ in where the dots are quoted, their settings in turns. -/
theorem group_in_turns :
    ∃ bag : Bag, (group bag).TablesOf bag ∧
      (group bag).keys =
        [⟨"a.b".toList, "c".toList, "d".toList⟩, ⟨"a".toList, "\"b.c\"".toList, "d".toList⟩] ∧
      ∀ s t, Address.path ⟨"a.b".toList, "c".toList, "d".toList⟩ s ≠
        Address.path ⟨"a".toList, "\"b.c\"".toList, "d".toList⟩ t := by
  refine ⟨.ofList [("topic.a.b.c.d.ttl".toList, .scalar (.int 1)),
    ("topic.a.\"b.c\".d.ttl".toList, .scalar (.int 2)), ("other".toList, .scalar (.int 3)),
    ("topic.a.b.c.d.mapping".toList, .scalar (.int 4))], group_by_path.2 _ (by decide), by decide,
    fun s t h => ?_⟩
  have hquoted : IsName "\"b.c\"".toList := @IsName.quoted "b.c".toList (by decide)
  have hsame := group_by_path.1 _ _
    ⟨by decide, List.all_eq_true.1 (by decide), .plain (by decide) (by decide) (by decide),
      .plain (by decide) (by decide) (by decide)⟩
    ⟨by decide, List.all_eq_true.1 (by decide), hquoted,
      .plain (by decide) (by decide) (by decide)⟩ s t h
  exact absurd hsame.1 (by decide)

end TopicTables
