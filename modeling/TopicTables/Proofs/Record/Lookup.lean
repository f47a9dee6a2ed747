import TopicTables.Record.Field
import TopicTables.Proofs.Text.Pieces

/-! Fields asked for by name and by path.

A path leads from struct to struct by the first field with the name of each segment
(`Leads`), and what it leads to is represented (`fieldType_of_leads`). A name is looked up at the top level first, where it means what the path of this one
segment means (`fieldType_name_of_mem`); only then is it cut at its dots and followed. So
the segments that a name joins are found as well by the name as by the path, unless there
is a top-level field to come between (`fieldType_name_joinWith`). -/
namespace TopicTables

namespace RecordType

theorem field?_append (before after : List (Text × RecordType)) (name : Text) :
    field? (before ++ after) name = (field? before name).or (field? after name) := by
  rw [field?, List.find?_append, Option.map_or]
  rfl

theorem field?_cons_self (name : Text) (t : RecordType) (fields : List (Text × RecordType)) :
    field? ((name, t) :: fields) name = some t := by
  simp [field?]

theorem field?_cons_of_ne {name other : Text} (h : other ≠ name) (t : RecordType)
    (fields : List (Text × RecordType)) : field? ((other, t) :: fields) name = field? fields name := by
  simp [field?, h]

theorem field?_eq_none_iff {fields : List (Text × RecordType)} {name : Text} :
    field? fields name = none ↔ name ∉ fields.map Prod.fst := by
  rw [field?, Option.map_eq_none_iff, List.find?_eq_none]
  constructor
  · intro h hmem
    obtain ⟨f, hf, rfl⟩ := List.mem_map.1 hmem
    exact h f hf (decide_eq_true rfl)
  · intro h f hf hname
    exact h (List.mem_map.2 ⟨f, hf, of_decide_eq_true hname⟩)

theorem exists_field?_of_mem {fields : List (Text × RecordType)} {name : Text}
    (h : name ∈ fields.map Prod.fst) : ∃ t, field? fields name = some t :=
  Option.ne_none_iff_exists'.1 fun hnone => field?_eq_none_iff.1 hnone h

theorem field?_eq_some_iff {fields : List (Text × RecordType)} {name : Text} {t : RecordType} :
    field? fields name = some t ↔
      ∃ before after, fields = before ++ (name, t) :: after ∧ name ∉ before.map Prod.fst := by
  constructor
  · intro h
    obtain ⟨⟨name', t'⟩, hfind, ht⟩ := Option.map_eq_some_iff.1 h
    obtain ⟨hname, before, after, hfields, hbefore⟩ := List.find?_eq_some_iff_append.1 hfind
    obtain rfl : t' = t := ht
    obtain rfl : name' = name := of_decide_eq_true hname
    refine ⟨before, after, hfields, fun hmem => ?_⟩
    obtain ⟨f, hf, hfname⟩ := List.mem_map.1 hmem
    simpa [hfname] using hbefore f hf
  · rintro ⟨before, after, rfl, hbefore⟩
    rw [field?_append, field?_eq_none_iff.2 hbefore, Option.none_or, field?_cons_self]

/-- A path leads from a type to another, by the first field with the name of each segment. -/
inductive Leads : RecordType → List Text → RecordType → Prop
  | here (t : RecordType) : Leads t [] t
  | field {segment : Text} {before : List (Text × RecordType)} {t u : RecordType}
      {rest : List Text} (hfirst : segment ∉ before.map Prod.fst) (h : Leads t rest u)
      (after : List (Text × RecordType)) :
    Leads (.struct (before ++ (segment, t) :: after)) (segment :: rest) u

theorem follow?_eq_some_iff {path : List Text} {t u : RecordType} :
    t.follow? path = some u ↔ Leads t path u := by
  constructor
  · intro h
    induction path generalizing t with
    | nil =>
      cases h
      exact .here _
    | cons segment rest ih =>
      cases t with
      | struct fields =>
        obtain ⟨t, hfield, hrest⟩ := Option.bind_eq_some_iff.1 h
        obtain ⟨before, after, rfl, hfirst⟩ := field?_eq_some_iff.1 hfield
        exact .field hfirst (ih hrest) after
      | leaf _ => cases h
      | array _ => cases h
      | map _ _ => cases h
  · intro h
    induction h with
    | here t => rfl
    | field hfirst _ after ih =>
      rw [follow?, field?_eq_some_iff.2 ⟨_, after, rfl, hfirst⟩]
      exact ih

end RecordType

namespace PartSchema
variable {fields : List (Text × RecordType)} {segments : List Text}

/-! ### Paths -/

/-- **What a path leads to is represented.** -/
theorem fieldType_of_leads {t : RecordType} (hne : segments ≠ []) (hpart : segments ≠ [wholeField])
    (h : RecordType.Leads (.struct fields) segments t) (hint : ColumnHint) :
    fieldType (.struct fields) (.path segments) hint = t.represented := by
  have hwhole : (FieldQuery.path segments).isWhole = false := beq_eq_false_iff_ne.2 hpart
  rw [fieldType, find, walk, hwhole, if_neg hne, RecordType.follow?_eq_some_iff.2 h]
  rfl

/-- A path that leads nowhere is an error, however far it leads. -/
theorem fieldType_of_not_leads (hne : segments ≠ []) (hpart : segments ≠ [wholeField])
    (h : ∀ t, ¬ RecordType.Leads (.struct fields) segments t) (hint : ColumnHint) :
    fieldType (.struct fields) (.path segments) hint =
      .error (.missing (joinWith ['.'] segments)) := by
  have hwhole : (FieldQuery.path segments).isWhole = false := beq_eq_false_iff_ne.2 hpart
  have hnone : (RecordType.struct fields).follow? segments = none := by
    rw [Option.eq_none_iff_forall_ne_some]
    exact fun t ht => h t (RecordType.follow?_eq_some_iff.1 ht)
  rw [fieldType, find, walk, hwhole, if_neg hne, hnone]
  rfl

/-! ### Names -/

/-- A path of one segment leads to a top-level field. -/
theorem walk_singleton (segment : Text) : walk fields [segment] =
    ((RecordType.field? fields segment).map .ok).getD (.error (.missing segment)) := by
  rw [walk, if_neg (List.cons_ne_nil segment []), RecordType.follow?, joinWith_singleton]
  cases RecordType.field? fields segment <;> rfl

theorem lookup_of_mem {name : Text} (h : name ∈ fields.map Prod.fst) :
    lookup fields name = walk fields [name] := by
  obtain ⟨t, ht⟩ := RecordType.exists_field?_of_mem h
  rw [lookup, walk_singleton, ht]
  rfl

/-- A name that no top-level field has is cut at its dots. -/
theorem lookup_joinWith (hne : segments ≠ []) (hdots : ∀ segment ∈ segments, '.' ∉ segment)
    (htop : joinWith ['.'] segments ∉ fields.map Prod.fst) :
    lookup fields (joinWith ['.'] segments) = walk fields segments := by
  rw [lookup, RecordType.field?_eq_none_iff.2 htop]
  exact congrArg (walk fields) (List.splitOn_intercalate '.' hdots hne)

/-- The whole part is asked for by its reserved name only, which has no dots. -/
theorem isWhole_name_joinWith (hne : segments ≠ [])
    (hdots : ∀ segment ∈ segments, '.' ∉ segment) :
    (FieldQuery.name (joinWith ['.'] segments)).isWhole = (FieldQuery.path segments).isWhole := by
  have hjoin : joinWith ['.'] segments = wholeField ↔ segments = [wholeField] := by
    constructor
    · intro h
      have hcut : (joinWith ['.'] segments).splitOn '.' = segments :=
        List.splitOn_intercalate '.' hdots hne
      rw [← hcut, h]
      decide
    · intro h
      rw [h, joinWith_singleton]
  rw [FieldQuery.isWhole, FieldQuery.isWhole, Bool.eq_iff_iff, beq_iff_eq, beq_iff_eq, hjoin]

theorem fieldType_name_of_mem {name : Text} (h : name ∈ fields.map Prod.fst) (hint : ColumnHint) :
    fieldType (.struct fields) (.name name) hint = fieldType (.struct fields) (.path [name]) hint := by
  have hwhole : (FieldQuery.name name).isWhole = (FieldQuery.path [name]).isWhole := by
    simp [FieldQuery.isWhole]
  rw [fieldType, fieldType, find, find, hwhole, lookup_of_mem h]

/-- **A name and the path of its segments have the same outcome**, if no top-level field has
the name of a path of several segments. -/
theorem fieldType_name_joinWith (hne : segments ≠ []) (hdots : ∀ segment ∈ segments, '.' ∉ segment)
    (htop : 2 ≤ segments.length → joinWith ['.'] segments ∉ fields.map Prod.fst)
    (hint : ColumnHint) :
    fieldType (.struct fields) (.name (joinWith ['.'] segments)) hint =
      fieldType (.struct fields) (.path segments) hint := by
  by_cases hmem : joinWith ['.'] segments ∈ fields.map Prod.fst
  · -- The top-level field is the one that the path leads to.
    obtain ⟨segment, rest, rfl⟩ := List.exists_cons_of_ne_nil hne
    have hrest : rest = [] := Decidable.byContradiction fun hrest =>
      htop (Nat.succ_le_succ (List.length_pos_iff.2 hrest)) hmem
    rw [hrest, joinWith_singleton] at hmem ⊢
    exact fieldType_name_of_mem hmem hint
  · rw [fieldType, fieldType, find, find, isWhole_name_joinWith hne hdots,
      lookup_joinWith hne hdots hmem]

/-- Beside a top-level field whose name has dots: a path with an empty segment, and the same
path going on behind an array. -/
theorem fieldType_name_joinWith_empty : ∃ fields : List (Text × RecordType),
    fields.map Prod.fst = ["a.b".toList, "a".toList] ∧
      fieldType (.struct fields) (.name "a..c".toList) none =
        fieldType (.struct fields) (.path ["a".toList, [], "c".toList]) none ∧
      fieldType (.struct fields) (.name "a..c".toList) none = .ok (.list .integer) ∧
      fieldType (.struct fields) (.name "a..c.d".toList) none =
        fieldType (.struct fields) (.path ["a".toList, [], "c".toList, "d".toList]) none ∧
      fieldType (.struct fields) (.name "a..c.d".toList) none =
        .error (.missing "a..c.d".toList) := by
  let fields : List (Text × RecordType) := [("a.b".toList, .leaf .boolean),
    ("a".toList, .struct [([], .struct [("c".toList, .array (.leaf .long))])])]
  have hfound : joinWith ['.'] ["a".toList, [], "c".toList] ∉ fields.map Prod.fst := by decide
  have hlost : joinWith ['.'] ["a".toList, [], "c".toList, "d".toList] ∉ fields.map Prod.fst := by
    decide
  exact ⟨fields, rfl,
    fieldType_name_joinWith (List.cons_ne_nil _ _) (by decide) (fun _ => hfound) none, rfl,
    fieldType_name_joinWith (List.cons_ne_nil _ _) (by decide) (fun _ => hlost) none, rfl⟩

end PartSchema
end TopicTables
