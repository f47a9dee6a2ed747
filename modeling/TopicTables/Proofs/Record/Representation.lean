import TopicTables.Record.Type
import TopicTables.Proofs.Steps

/-! Which types are represented, and how.

A part of a type is *exposed* when only arrays and maps stand above it; what a struct
holds is not exposed. A representation follows its type through arrays and maps down to
the exposed leaves, and a struct is a row whatever it holds (`Represents`). So a type can
only fail to be represented through an exposed leaf, and it fails with the leftmost one
that is not registered (`representation_shape`). -/
namespace TopicTables

/-- No representation is registered for the leaf type. -/
def LeafType.isUnregistered (type : LeafType) : Bool := type.representation?.isNone

namespace RecordType

/-- The part stands in the type with nothing but arrays and maps above it. -/
inductive Exposed (part : RecordType) : RecordType → Prop
  | whole : Exposed part part
  | element {element : RecordType} (h : Exposed part element) : Exposed part (.array element)
  | key {key : RecordType} (h : Exposed part key) (value : RecordType) :
    Exposed part (.map key value)
  | value {value : RecordType} (key : RecordType) (h : Exposed part value) :
    Exposed part (.map key value)

/-- The exposed leaves from left to right; the key of a map stands before its value. -/
def exposedLeaves : RecordType → List LeafType
  | .leaf type => [type]
  | .array element => element.exposedLeaves
  | .map key value => key.exposedLeaves ++ value.exposedLeaves
  | .struct _ => []

/-- The representation has the nesting of the type, with the registered representation for
each exposed leaf and a row for each exposed struct. -/
inductive Represents : RecordType → Representation → Prop
  | leaf {type : LeafType} {r : Representation} (h : type.representation? = some r) :
    Represents (.leaf type) r
  | array {element : RecordType} {r : Representation} (h : Represents element r) :
    Represents (.array element) (.list r)
  | map {key value : RecordType} {rkey rvalue : Representation} (hkey : Represents key rkey)
    (hvalue : Represents value rvalue) : Represents (.map key value) (.map rkey rvalue)
  | struct (fields : List (Text × RecordType)) : Represents (.struct fields) .row

theorem mem_exposedLeaves_iff {leaf : LeafType} {t : RecordType} :
    leaf ∈ t.exposedLeaves ↔ Exposed (.leaf leaf) t := by
  constructor
  · intro h
    induction t using exposedLeaves.induct with
    | case1 type =>
      rw [List.mem_singleton.1 h]
      exact .whole
    | case2 element ih => exact .element (ih h)
    | case3 key value ihkey ihvalue =>
      rcases List.mem_append.1 h with h | h
      · exact .key (ihkey h) value
      · exact .value key (ihvalue h)
    | case4 fields => cases h
  · intro h
    induction h with
    | whole => exact List.mem_singleton.2 rfl
    | element _ ih => exact ih
    | key _ _ ih => exact List.mem_append_left _ ih
    | value _ _ ih => exact List.mem_append_right _ ih

/-! ### The representation, case by case -/

theorem representation_leaf_eq_ok_iff {type : LeafType} {r : Representation} :
    representation (.leaf type) = .ok r ↔ type.representation? = some r := by
  rw [representation]
  cases type.representation? <;> simp

theorem representation_leaf_eq_error_iff {type leaf : LeafType} :
    representation (.leaf type) = .error leaf ↔ type.isUnregistered = true ∧ type = leaf := by
  rw [representation, LeafType.isUnregistered]
  cases type.representation? <;> simp

theorem representation_array_eq_error_iff {element : RecordType} {leaf : LeafType} :
    representation (.array element) = .error leaf ↔ element.representation = .error leaf := by
  rw [representation]
  cases element.representation <;> simp [Except.map]

/-- The key is represented first. -/
theorem representation_map_eq_error_iff {key value : RecordType} {leaf : LeafType} :
    representation (.map key value) = .error leaf ↔ key.representation = .error leaf ∨
      (∀ first, key.representation ≠ .error first) ∧ value.representation = .error leaf := by
  rw [representation]
  cases key.representation <;> cases value.representation <;>
    simp [bind, Except.bind, pure, Except.pure]

theorem representation_eq_ok_iff {t : RecordType} {r : Representation} :
    t.representation = .ok r ↔ Represents t r := by
  constructor
  · intro h
    induction t using exposedLeaves.induct generalizing r with
    | case1 type => exact .leaf (representation_leaf_eq_ok_iff.1 h)
    | case2 element ih =>
      obtain ⟨r', helement, rfl⟩ := map_eq_ok h
      exact .array (ih helement)
    | case3 key value ihkey ihvalue =>
      obtain ⟨rkey, hkey, h⟩ := bind_eq_ok h
      obtain ⟨rvalue, hvalue, h⟩ := bind_eq_ok h
      cases h
      exact .map (ihkey hkey) (ihvalue hvalue)
    | case4 fields =>
      cases h
      exact .struct fields
  · intro h
    induction h with
    | leaf h => exact representation_leaf_eq_ok_iff.2 h
    | array _ ih =>
      rw [representation, ih]
      rfl
    | map _ _ ihkey ihvalue =>
      rw [representation, ihkey, ihvalue]
      rfl
    | struct fields => rfl

/-- The error is the first of the exposed leaves that is not registered. -/
theorem representation_eq_error_iff {t : RecordType} {leaf : LeafType} :
    t.representation = .error leaf ↔
      t.exposedLeaves.find? LeafType.isUnregistered = some leaf := by
  induction t using exposedLeaves.induct generalizing leaf with
  | case1 type =>
    rw [representation_leaf_eq_error_iff, exposedLeaves, List.find?_singleton]
    simp
  | case2 element ih => rw [representation_array_eq_error_iff, exposedLeaves, ih]
  | case3 key value ihkey ihvalue =>
    have hkey : (∀ first, key.representation ≠ .error first) ↔
        key.exposedLeaves.find? LeafType.isUnregistered = none := by
      rw [Option.eq_none_iff_forall_ne_some]
      exact forall_congr' fun first => not_congr ihkey
    rw [representation_map_eq_error_iff, exposedLeaves, List.find?_append, Option.or_eq_some_iff,
      ihkey, hkey, ihvalue]
  | case4 fields => simp [representation, exposedLeaves]

/-- **A type is represented in its own shape, or the leftmost exposed leaf that is not
registered is the error.** What stands in a struct matters to neither. -/
theorem representation_shape (t : RecordType) :
    (∀ r, t.representation = .ok r ↔ Represents t r) ∧
      ((∃ leaf, t.representation = .error leaf) ↔
        ∃ leaf, Exposed (.leaf leaf) t ∧ leaf.representation? = none) ∧
      ∀ leaf, t.representation = .error leaf ↔
        t.exposedLeaves.find? LeafType.isUnregistered = some leaf := by
  refine ⟨fun r => representation_eq_ok_iff, ?_, fun leaf => representation_eq_error_iff⟩
  simp only [representation_eq_error_iff, ← Option.isSome_iff_exists, List.find?_isSome,
    mem_exposedLeaves_iff, LeafType.isUnregistered, Option.isNone_iff_eq_none]

/-- The variant in the struct is hidden, and the one in the key comes before the interval. -/
example : representation (.map (.leaf .string) (.struct [([], .leaf .variant)])) =
      .ok (.map .text .row) ∧
    representation (.map (.array (.leaf .variant)) (.leaf .calendarInterval)) =
      .error .variant :=
  ⟨rfl, rfl⟩

end RecordType
end TopicTables
