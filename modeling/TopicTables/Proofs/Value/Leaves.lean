import TopicTables.Proofs.Roster
import TopicTables.Proofs.Value.Digits
import Mathlib.Data.Nat.Digits.Defs

/-! Flattening a tree in one pass over its leaves.

`flatten` makes the bag of a nested map on its own and merges it as a whole. The leaves of a
tree in document order, each with the keys on its way, say the same without the recursion:
`assign` puts the text of a leaf under its path, and flattening is one pass of `assign` over
all leaves (`flatten_one_pass`). What carries the recursion over is that a merge can be undone
from the far end: putting an entry before merging is putting it after
(`Roster.foldl_put_items_put`).

Only the keys above no leaf at all are seen by `flatten` and not by the pass. Such a key leaves
no trace, unless it is an integer that cannot be written. -/
namespace TopicTables

/-- A leaf of a tree: the keys on the way to it, outermost first, and what it holds. -/
structure Leaf where
  keys : List Scalar
  value : Value

/-- The leaf as seen from outside the entry that it stands in. -/
def Leaf.below (key : Scalar) (leaf : Leaf) : Leaf := ⟨key :: leaf.keys, leaf.value⟩

/-- The path of a leaf below a stem and its text. -/
def Leaf.entry (stem : Text) (leaf : Leaf) : Except DigitLimit (Text × Text) := do
  let path ← leaf.keys.foldlM keyPath stem
  return (path, ← leaf.value.settingText)

/-- A flat bag with the text of a leaf under its path. -/
def TextBag.assign (stem : Text) (flat : TextBag) (leaf : Leaf) :
    Except FlattenFault TextBag :=
  match leaf.entry stem with
  | .ok e => .ok (flat.put e)
  | .error limit => .error (.digits limit)

mutual

/-- The leaves of a value in document order; what is no map is a leaf itself. -/
def Value.leaves : Value → List Leaf
  | .map entries => entryLeaves entries
  | v => [⟨[], v⟩]

/-- The leaves of the entries of a map. -/
def entryLeaves : List (Scalar × Value) → List Leaf
  | [] => []
  | (k, v) :: rest => v.leaves.map (Leaf.below k) ++ entryLeaves rest

end

mutual

/-- The keys in a value that stand above no leaf. -/
def Value.bareKeys : Value → List Scalar
  | .map entries => entryBareKeys entries
  | _ => []

/-- The keys in the entries of a map that stand above no leaf. -/
def entryBareKeys : List (Scalar × Value) → List Scalar
  | [] => []
  | (k, v) :: rest =>
    (if v.leaves.isEmpty then k :: v.bareKeys else v.bareKeys) ++ entryBareKeys rest

end

/-- No map in the entries stands in itself. -/
def IsTree (entries : List (Scalar × Value)) : Prop :=
  ∀ leaf ∈ entryLeaves entries, leaf.value ≠ .mapAgain

theorem IsTree.left {k : Scalar} {v : Value} {rest : List (Scalar × Value)}
    (h : IsTree ((k, v) :: rest)) : ∀ leaf ∈ v.leaves, leaf.value ≠ .mapAgain :=
  fun leaf hleaf => h (leaf.below k) (List.mem_append_left _ (List.mem_map_of_mem hleaf))

theorem IsTree.right {k : Scalar} {v : Value} {rest : List (Scalar × Value)}
    (h : IsTree ((k, v) :: rest)) : IsTree rest :=
  fun leaf hleaf => h leaf (List.mem_append_right _ hleaf)

/-! ### One assignment -/

section Assign
variable {stem path : Text} {key : Scalar} {limit : DigitLimit} {flat : TextBag}

theorem keyPath_guarded (stem : Text) (key : Scalar) :
    Guarded .writing (key.integers.all isWritable) (keyPath stem key) :=
  key.display_guarded.bind_pure _

theorem entry_below (h : keyPath stem key = .ok path) (leaf : Leaf) :
    (leaf.below key).entry stem = leaf.entry path := by
  simp only [Leaf.entry, Leaf.below, List.foldlM_cons, h]
  rfl

theorem entry_below_error (h : keyPath stem key = .error limit) (leaf : Leaf) :
    (leaf.below key).entry stem = .error limit := by
  simp only [Leaf.entry, Leaf.below, List.foldlM_cons, h]
  rfl

theorem assign_below (h : keyPath stem key = .ok path) (leaf : Leaf) :
    flat.assign stem (leaf.below key) = flat.assign path leaf := by
  rw [TextBag.assign, entry_below h, TextBag.assign]

/-- A leaf right at a path is put there. -/
theorem foldlM_assign_here (flat : TextBag) (path : Text) (v : Value) :
    [⟨[], v⟩].foldlM (TextBag.assign path) flat = flat.putLeaf path v := by
  rw [List.foldlM_cons, TextBag.assign, TextBag.putLeaf]
  unfold Leaf.entry
  cases v.settingText <;> rfl

/-- Where a key has no path, its first leaf is not reached. -/
theorem foldlM_assign_below_error (h : keyPath stem key = .error limit) {leaves : List Leaf}
    (hleaves : leaves ≠ []) :
    (leaves.map (Leaf.below key)).foldlM (TextBag.assign stem) flat = .error (.digits limit) := by
  obtain ⟨leaf, rest, rfl⟩ := List.exists_cons_of_ne_nil hleaves
  rw [List.map_cons, List.foldlM_cons, TextBag.assign, entry_below_error h]
  rfl

/-- Leaves assigned to one bag and merged into another could as well have been assigned to the
other at once. -/
theorem merge_foldlM_assign (path : Text) (flat made : TextBag) (leaves : List Leaf) :
    (do return flat.merge (← leaves.foldlM (TextBag.assign path) made)) =
      leaves.foldlM (TextBag.assign path) (flat.merge made) := by
  induction leaves generalizing made with
  | nil => rfl
  | cons leaf leaves ih =>
    rw [List.foldlM_cons, List.foldlM_cons, TextBag.assign, TextBag.assign]
    cases leaf.entry path with
    | error limit => rfl
    | ok e =>
      show (do return flat.merge (← leaves.foldlM (TextBag.assign path) (made.put e))) =
        leaves.foldlM (TextBag.assign path) ((flat.merge made).put e)
      rw [ih, TextBag.merge, Roster.foldl_put_items_put]
      rfl

end Assign

/-! ### One pass -/

mutual

/-- Putting a value at a path assigns its leaves below the path. -/
theorem Value.putInto_eq : ∀ (v : Value) (flat : TextBag) (path : Text),
    (∀ leaf ∈ v.leaves, leaf.value ≠ .mapAgain) →
    (∀ key ∈ v.bareKeys, key.integers.all isWritable = true) →
    v.putInto flat path = v.leaves.foldlM (TextBag.assign path) flat
  | .map entries, flat, path, htree, hbare => by
    rw [Value.putInto, putEntries_eq entries ∅ path htree hbare, merge_foldlM_assign]
    rfl
  | .mapAgain, _, _, htree, _ => absurd rfl (htree ⟨[], .mapAgain⟩ (List.mem_singleton_self _))
  | .scalar s, flat, path, _, _ => (foldlM_assign_here flat path (.scalar s)).symm
  | .list items, flat, path, _, _ => (foldlM_assign_here flat path (.list items)).symm
  | .set members, flat, path, _, _ => (foldlM_assign_here flat path (.set members)).symm
  | .pair first second, flat, path, _, _ =>
    (foldlM_assign_here flat path (.pair first second)).symm
  | .listAgain, flat, path, _, _ => (foldlM_assign_here flat path .listAgain).symm

/-- Putting entries below a stem assigns their leaves one after the other. -/
theorem putEntries_eq : ∀ (entries : List (Scalar × Value)) (flat : TextBag) (stem : Text),
    IsTree entries →
    (∀ key ∈ entryBareKeys entries, key.integers.all isWritable = true) →
    putEntries flat stem entries = (entryLeaves entries).foldlM (TextBag.assign stem) flat
  | [], _, _, _, _ => rfl
  | (k, v) :: rest, flat, stem, htree, hbare => by
    have hvbare : ∀ key ∈ v.bareKeys, key.integers.all isWritable = true := by
      intro key hkey
      refine hbare key (List.mem_append_left _ ?_)
      split
      · exact List.mem_cons_of_mem k hkey
      · exact hkey
    have hrestbare : ∀ key ∈ entryBareKeys rest, key.integers.all isWritable = true :=
      fun key hkey => hbare key (List.mem_append_right _ hkey)
    rw [putEntries, entryLeaves, List.foldlM_append]
    cases hpath : keyPath stem k with
    | error limit =>
      -- A bare key would have a path, so there is a leaf below, and it meets the same fault.
      have hleaves : v.leaves ≠ [] := by
        intro hnone
        have hk : k.integers.all isWritable = true :=
          hbare k (List.mem_append_left _ (by simp [hnone]))
        obtain ⟨path, hok⟩ := (hk ▸ keyPath_guarded stem k).exists_ok
        rw [hpath] at hok
        cases hok
      rw [foldlM_assign_below_error hpath hleaves]
      rfl
    | ok path =>
      have hbelow : (v.leaves.map (Leaf.below k)).foldlM (TextBag.assign stem) flat =
          v.leaves.foldlM (TextBag.assign path) flat := by
        rw [List.foldlM_map]
        simp only [assign_below hpath]
      rw [hbelow, ← Value.putInto_eq v flat path htree.left hvbare]
      show (do putEntries (← v.putInto flat path) stem rest) =
        do (entryLeaves rest).foldlM (TextBag.assign stem) (← v.putInto flat path)
      cases v.putInto flat path with
      | error fault => rfl
      | ok flat' => exact putEntries_eq rest flat' stem htree.right hrestbare

end

/-! ### Integers that cannot be written -/

theorem TextBag.putLeaf_guarded (flat : TextBag) (path : Text) (v : Value) :
    Guarded (.digits .writing) (v.integers.all isWritable) (flat.putLeaf path v) := by
  have h := v.settingText_guarded
  rw [putLeaf]
  generalize v.settingText = text at h ⊢
  generalize v.integers.all isWritable = test at h ⊢
  cases h with
  | ok t => exact .ok _
  | error => exact .error

mutual

theorem Value.putInto_guarded : ∀ (v : Value) (flat : TextBag) (path : Text),
    (∀ leaf ∈ v.leaves, leaf.value ≠ .mapAgain) →
    Guarded (.digits .writing) (v.integers.all isWritable) (v.putInto flat path)
  | .map entries, _, path, htree => by
    rw [Value.putInto, Value.integers]
    exact (putEntries_guarded entries ∅ path htree).bind_pure _
  | .mapAgain, _, _, htree => absurd rfl (htree ⟨[], .mapAgain⟩ (List.mem_singleton_self _))
  | .scalar s, flat, path, _ => flat.putLeaf_guarded path (.scalar s)
  | .list items, flat, path, _ => flat.putLeaf_guarded path (.list items)
  | .set members, flat, path, _ => flat.putLeaf_guarded path (.set members)
  | .pair first second, flat, path, _ => flat.putLeaf_guarded path (.pair first second)
  | .listAgain, flat, path, _ => flat.putLeaf_guarded path .listAgain

/-- A tree is flattened exactly when all of its integers can be written. -/
theorem putEntries_guarded : ∀ (entries : List (Scalar × Value)) (flat : TextBag) (stem : Text),
    IsTree entries →
    Guarded (.digits .writing) ((Value.entryIntegers entries).all isWritable)
      (putEntries flat stem entries)
  | [], _, _, _ => .ok _
  | (k, v) :: rest, flat, stem, htree => by
    rw [putEntries, Value.entryIntegers, List.all_append, List.all_append]
    have hkey := keyPath_guarded stem k
    generalize keyPath stem k = path at hkey ⊢
    generalize k.integers.all isWritable = test at hkey ⊢
    cases hkey with
    | error => exact .error
    | ok path =>
      exact (Value.putInto_guarded v flat path htree.left).bind fun flat' =>
        putEntries_guarded rest flat' stem htree.right

end

mutual

theorem Value.isWritable_of_mem_bareKeys : ∀ (v : Value), v.integers.all isWritable = true →
    ∀ key ∈ v.bareKeys, key.integers.all isWritable = true
  | .map entries => by
    rw [Value.integers, Value.bareKeys]
    exact isWritable_of_mem_entryBareKeys entries
  | .scalar _ => nofun
  | .list _ => nofun
  | .set _ => nofun
  | .pair _ _ => nofun
  | .listAgain => nofun
  | .mapAgain => nofun

theorem isWritable_of_mem_entryBareKeys : ∀ (entries : List (Scalar × Value)),
    (Value.entryIntegers entries).all isWritable = true →
    ∀ key ∈ entryBareKeys entries, key.integers.all isWritable = true
  | [] => nofun
  | (k, v) :: rest => by
    intro hall key hkey
    rw [Value.entryIntegers, List.all_append, List.all_append, Bool.and_eq_true,
      Bool.and_eq_true] at hall
    obtain ⟨hk, hv, hrest⟩ := hall
    rcases List.mem_append.1 hkey with hkey | hkey
    · have hcases : key = k ∨ key ∈ v.bareKeys := by
        split at hkey
        · exact List.mem_cons.1 hkey
        · exact .inr hkey
      rcases hcases with rfl | hkey
      · exact hk
      · exact Value.isWritable_of_mem_bareKeys v hv key hkey
    · exact isWritable_of_mem_entryBareKeys rest hrest key hkey

end

/-! ### What is assigned -/

/-- Leaves assigned one after the other are their entries put one after the other. -/
theorem entries_of_foldlM_assign {stem : Text} {leaves : List Leaf} {flat flat' : TextBag}
    (h : leaves.foldlM (TextBag.assign stem) flat = .ok flat') :
    ∃ assigned, leaves.mapM (Leaf.entry stem) = .ok assigned ∧
      flat' = assigned.foldl Roster.put flat := by
  induction leaves generalizing flat with
  | nil =>
    cases h
    exact ⟨[], rfl, rfl⟩
  | cons leaf leaves ih =>
    rw [List.foldlM_cons] at h
    obtain ⟨middle, hfirst, hrest⟩ := bind_eq_ok h
    obtain ⟨assigned, hassigned, rfl⟩ := ih hrest
    rw [TextBag.assign] at hfirst
    split at hfirst
    · next e hentry =>
      cases hfirst
      refine ⟨e :: assigned, ?_, rfl⟩
      rw [List.mapM_cons, hentry, hassigned]
      rfl
    · cases hfirst

/-- Texts under texts, put as they stand. -/
theorem putEntries_texts (flat : TextBag) (items : List (Text × Text)) :
    putEntries flat [] (items.map fun e => (.text e.1, .text e.2)) =
      .ok (items.foldl Roster.put flat) := by
  induction items generalizing flat with
  | nil => rfl
  | cons e items ih => exact ih (flat.put e)

theorem entryLeaves_append (before after : List (Scalar × Value)) :
    entryLeaves (before ++ after) = entryLeaves before ++ entryLeaves after := by
  induction before with
  | nil => rfl
  | cons e before ih =>
    rw [List.cons_append, entryLeaves, ih, entryLeaves, List.append_assoc]

theorem entryBareKeys_append (before after : List (Scalar × Value)) :
    entryBareKeys (before ++ after) = entryBareKeys before ++ entryBareKeys after := by
  induction before with
  | nil => rfl
  | cons e before ih =>
    rw [List.cons_append, entryBareKeys, ih, entryBareKeys, List.append_assoc]

/-! ### Flattening -/

section Flattening
variable {stem : Text} {entries : List (Scalar × Value)}

theorem keys_isWritable {keys : List Scalar}
    (h : ∀ n, .int n ∈ keys → (decimal n.natAbs).length ≤ 4300) :
    ∀ key ∈ keys, key.integers.all isWritable = true := by
  intro key hkey
  cases key with
  | int n => simpa [Scalar.integers] using isWritable_iff.2 (h n hkey)
  | _ => rfl

/-- A bare key that cannot be written stops the flattening. -/
theorem flatten_of_bareKey (h : IsTree entries) {n : Int} (hbare : .int n ∈ entryBareKeys entries)
    (hn : 4300 < (decimal n.natAbs).length) :
    flatten stem entries = .error (.digits .writing) := by
  have hguarded := putEntries_guarded entries ∅ stem h
  cases hall : (Value.entryIntegers entries).all isWritable with
  | false =>
    rw [hall] at hguarded
    exact hguarded.eq_error
  | true =>
    have hwritable := isWritable_of_mem_entryBareKeys entries hall (.int n) hbare
    simp only [Scalar.integers, List.all_cons, List.all_nil, Bool.and_true, isWritable_iff,
      maxDigits] at hwritable
    omega

theorem leaves_without {before after : List (Scalar × Value)} {k : Scalar} {v : Value}
    (hv : v.leaves = []) :
    entryLeaves (before ++ (k, v) :: after) = entryLeaves (before ++ after) := by
  rw [entryLeaves_append, entryLeaves, hv, entryLeaves_append]
  rfl

theorem mem_entryBareKeys_without {before after : List (Scalar × Value)} {k key : Scalar}
    {v : Value} (h : key ∈ entryBareKeys (before ++ after)) :
    key ∈ entryBareKeys (before ++ (k, v) :: after) := by
  rw [entryBareKeys_append, List.mem_append] at h
  rw [entryBareKeys_append, entryBareKeys, List.mem_append, List.mem_append]
  exact h.imp_right .inr

/-- **Flattening a tree is one pass over its leaves.** Where every key above no leaf can be
written, `flatten` assigns the texts of the leaves in document order, so a path stands where it
first came up and holds what came last, and an entry without leaves leaves no trace; a tree
whose integers can be written has a flat bag. An integer of too many digits above no leaf is
refused all the same. A bag that is flat already stays as it is. -/
theorem flatten_one_pass (stem : Text) (entries : List (Scalar × Value)) (h : IsTree entries) :
    ((∀ n, .int n ∈ entryBareKeys entries → (decimal n.natAbs).length ≤ 4300) →
      flatten stem entries = (entryLeaves entries).foldlM (TextBag.assign stem) ∅ ∧
      ∀ before k v after, entries = before ++ (k, v) :: after → v.leaves = [] →
        flatten stem entries = flatten stem (before ++ after)) ∧
    ((∃ n, .int n ∈ entryBareKeys entries ∧ 4300 < (decimal n.natAbs).length) →
      flatten stem entries = .error (.digits .writing)) ∧
    ((∀ n ∈ Value.entryIntegers entries, (decimal n.natAbs).length ≤ 4300) →
      ∃ flat assigned, flatten stem entries = .ok flat ∧
        (entryLeaves entries).mapM (Leaf.entry stem) = .ok assigned ∧
        flat.keys = (assigned.map Prod.fst).eraseDups ∧
        ∀ path, flat.find? path = assigned.reverse.find? fun e => e.1 = path) ∧
    ∀ bag : TextBag, flatten [] (bag.items.map fun e => (.text e.1, .text e.2)) = .ok bag := by
  refine ⟨fun hbare => ⟨putEntries_eq entries ∅ stem h (keys_isWritable hbare), ?_⟩, ?_, ?_, ?_⟩
  · intro before k v after hsplit hv
    subst hsplit
    have htree : IsTree (before ++ after) := by
      rw [IsTree, ← leaves_without hv]
      exact h
    rw [flatten, putEntries_eq _ ∅ stem h (keys_isWritable hbare), leaves_without hv, flatten,
      putEntries_eq _ ∅ stem htree
        (keys_isWritable fun n hn => hbare n (mem_entryBareKeys_without hn))]
  · intro hlong
    obtain ⟨n, hbare, hn⟩ := hlong
    exact flatten_of_bareKey h hbare hn
  · intro hshort
    have hall : (Value.entryIntegers entries).all isWritable = true :=
      List.all_eq_true.2 fun n hn => decide_eq_true (hshort n hn)
    obtain ⟨flat, hflat⟩ := (hall ▸ putEntries_guarded entries ∅ stem h).exists_ok
    have hpass := putEntries_eq entries ∅ stem h (isWritable_of_mem_entryBareKeys entries hall)
    obtain ⟨assigned, hassigned, rfl⟩ := entries_of_foldlM_assign (hpass.symm.trans hflat)
    refine ⟨_, assigned, hflat, hassigned, Roster.keys_foldl_put ∅ assigned, fun path => ?_⟩
    rw [Roster.find?_foldl_put]
    exact Option.or_none
  · intro bag
    rw [flatten, putEntries_texts]
    exact congrArg Except.ok bag.ofList_items

/-- A number of 4817 digits above an empty map: there is no leaf to assign, and still no flat
bag. -/
theorem flatten_long_bareKey :
    let entries : List (Scalar × Value) := [(.int (16 ^ 4000), .map [])]
    IsTree entries ∧ (entryLeaves entries).foldlM (TextBag.assign []) ∅ = .ok ∅ ∧
      flatten [] entries = .error (.digits .writing) := by
  intro entries
  have htree : IsTree entries := nofun
  have hlong : 4300 < (decimal (16 ^ 4000 : Int).natAbs).length := by
    rw [← Nat.not_le, decimal, Nat.length_toDigits_le_iff (by decide) (by decide), Nat.not_lt,
      Int.natAbs_pow]
    decide +kernel
  exact ⟨htree, rfl, flatten_of_bareKey htree List.mem_cons_self hlong⟩

/-- A dotted key beside a nested one of the same path, and an empty map. -/
theorem flatten_one_pass_colliding :
    let entries : List (Scalar × Value) :=
      [(.text "a.b".toList, .scalar (.int 1)),
        (.text "a".toList, .map [(.text "b".toList, .scalar (.bool true))]),
        (.text "c".toList, .map [])]
    IsTree entries ∧
    flatten [] entries = (entryLeaves entries).foldlM (TextBag.assign []) ∅ ∧
    flatten [] entries = flatten [] (entries.take 2) ∧
    ∃ flat assigned, flatten [] entries = .ok flat ∧
      (entryLeaves entries).mapM (Leaf.entry []) = .ok assigned ∧
      flat.keys = (assigned.map Prod.fst).eraseDups ∧
      ∀ path, flat.find? path = assigned.reverse.find? fun e => e.1 = path := by
  intro entries
  have htree : IsTree entries := by
    simp [IsTree, entries, entryLeaves, Value.leaves, Leaf.below]
  have hbare : ∀ n, .int n ∈ entryBareKeys entries → (decimal n.natAbs).length ≤ 4300 := by
    simp [entries, entryBareKeys, Value.bareKeys, Value.leaves, entryLeaves]
  obtain ⟨hpass, -, hflat, -⟩ := flatten_one_pass [] entries htree
  exact ⟨htree, (hpass hbare).1, (hpass hbare).2 (entries.take 2) _ (.map []) [] rfl rfl,
    hflat (by decide)⟩

/-- The first leaf of a path gives it its place and the last its text. -/
example : (flatten [] [(.text "a.b".toList, .scalar (.int 1)), (.text ['x'], .scalar .none),
      (.text ['a'], .map [(.text ['b'], .scalar (.bool true))])]).map Roster.items =
    .ok [("a.b".toList, "true".toList), (['x'], [])] := by
  rfl

end Flattening
end TopicTables
