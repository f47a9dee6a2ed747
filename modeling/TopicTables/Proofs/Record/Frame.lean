import Mathlib.Logic.Relation
import TopicTables.Proofs.Record.Lookup
import TopicTables.Proofs.Record.Representation

/-! What the type of a field does not depend on.

A path reads one field of each struct that it enters: the first with the name of the
segment. So a schema can be edited beside the path (`Edit`) by other fields at any level,
by fields that repeat an earlier name, and by anything at all in structs that are not
entered, those at the end of the path and below arrays and maps among them. One edit
leaves alone what the path leads to, as far as it is represented (`follow?_of_edit`), so
any number of edits and of edits taken back does (`follow?_of_edits`), and the type or the
error stays the same (`fieldType_beside`). -/
namespace TopicTables

namespace RecordType

/-- One edit of a type beside the path that is followed in it. -/
inductive Edit : List Text → RecordType → RecordType → Prop
  /-- A field is put in whose name is not looked up. -/
  | other {segment name : Text} (h : name ≠ segment) (rest : List Text)
      (before after : List (Text × RecordType)) (t : RecordType) :
    Edit (segment :: rest) (.struct (before ++ after)) (.struct (before ++ (name, t) :: after))
  /-- A field is put in that repeats the name of an earlier one. -/
  | repeated {name : Text} {before : List (Text × RecordType)} (h : name ∈ before.map Prod.fst)
      (segment : Text) (rest : List Text) (after : List (Text × RecordType)) (t : RecordType) :
    Edit (segment :: rest) (.struct (before ++ after)) (.struct (before ++ (name, t) :: after))
  /-- A field with the name looked up is edited beside the rest of the path. -/
  | inside {rest : List Text} {t t' : RecordType} (h : Edit rest t t') (segment : Text)
      (before after : List (Text × RecordType)) :
    Edit (segment :: rest) (.struct (before ++ (segment, t) :: after))
      (.struct (before ++ (segment, t') :: after))
  /-- The fields of the struct at the end of the path are replaced. -/
  | atEnd (fields fields' : List (Text × RecordType)) : Edit [] (.struct fields) (.struct fields')
  /-- Below an array, no struct is entered, whatever is left of the path. -/
  | element {t t' : RecordType} (h : Edit [] t t') (path : List Text) :
    Edit path (.array t) (.array t')
  /-- Nor in the key of a map. -/
  | key {t t' : RecordType} (h : Edit [] t t') (path : List Text) (value : RecordType) :
    Edit path (.map t value) (.map t' value)
  /-- Nor in its value. -/
  | value {t t' : RecordType} (h : Edit [] t t') (path : List Text) (key : RecordType) :
    Edit path (.map key t) (.map key t')

/-- Edits and edits taken back, one after the other. A field that is not seen can so be changed
in any way: it is taken out and put in again. -/
abbrev Edits (path : List Text) : RecordType → RecordType → Prop := Relation.EqvGen (Edit path)

section Fields
variable {before after : List (Text × RecordType)} {name segment : Text}

/-- A field that is not the first of the name looked up is not seen. -/
theorem field?_insert (h : name ≠ segment ∨ name ∈ before.map Prod.fst) (t : RecordType) :
    field? (before ++ (name, t) :: after) segment = field? (before ++ after) segment := by
  rw [field?_append, field?_append]
  by_cases hname : name = segment
  · obtain ⟨u, hu⟩ := exists_field?_of_mem (h.resolve_left (not_not.2 hname))
    rw [← hname, hu, Option.some_or, Option.some_or]
  · rw [field?_cons_of_ne hname]

end Fields

section Edits
variable {path : List Text} {t t' : RecordType}

/-- No edit is seen by the representation, which enters no struct. -/
theorem representation_of_edit (h : Edit path t t') : t.representation = t'.representation := by
  induction h with
  | other | repeated | inside | atEnd => rfl
  | element _ _ ih => rw [representation, representation, ih]
  | key _ _ _ ih => rw [representation, representation, ih]
  | value _ _ _ ih => rw [representation, representation, ih]

/-- Where no path goes on, the representation is all that is found. -/
theorem follow?_of_not_entered (ht : ∀ segment rest, t.follow? (segment :: rest) = none)
    (ht' : ∀ segment rest, t'.follow? (segment :: rest) = none)
    (h : t.representation = t'.representation) (path : List Text) :
    (t.follow? path).map representation = (t'.follow? path).map representation := by
  cases path with
  | nil =>
    rw [follow?, follow?, Option.map_some, Option.map_some, h]
  | cons segment rest => rw [ht, ht']

theorem follow?_of_edit (h : Edit path t t') :
    (t.follow? path).map representation = (t'.follow? path).map representation := by
  induction h with
  | other h => rw [follow?, follow?, field?_insert (.inl h)]
  | repeated h => rw [follow?, follow?, field?_insert (.inr h)]
  | inside _ segment before after ih =>
    rw [follow?, follow?, field?_append, field?_append, field?_cons_self, field?_cons_self]
    cases field? before segment with
    | none => exact ih
    | some u => rfl
  | atEnd => rfl
  | element h path =>
    have hr := representation_of_edit (.element h [])
    exact follow?_of_not_entered (fun _ _ => rfl) (fun _ _ => rfl) hr path
  | key h path value =>
    have hr := representation_of_edit (.key h [] value)
    exact follow?_of_not_entered (fun _ _ => rfl) (fun _ _ => rfl) hr path
  | value h path key =>
    have hr := representation_of_edit (.value h [] key)
    exact follow?_of_not_entered (fun _ _ => rfl) (fun _ _ => rfl) hr path

theorem follow?_of_edits (h : Edits path t t') :
    (t.follow? path).map representation = (t'.follow? path).map representation := by
  induction h with
  | rel _ _ h => exact follow?_of_edit h
  | refl _ => rfl
  | symm _ _ _ ih => exact ih.symm
  | trans _ _ _ _ _ ih ih' => exact ih.trans ih'

end Edits

end RecordType

namespace PartSchema
variable {fields fields' : List (Text × RecordType)} {segments : List Text}

/-- Of the field that a path leads to, only the representation counts. -/
theorem fieldType_congr
    (h : ((RecordType.struct fields).follow? segments).map RecordType.representation =
      ((RecordType.struct fields').follow? segments).map RecordType.representation)
    (hint hint' : ColumnHint) : fieldType (.struct fields) (.path segments) hint =
      fieldType (.struct fields') (.path segments) hint' := by
  rw [fieldType, fieldType, find, find, walk, walk]
  cases hfound : (RecordType.struct fields).follow? segments with
  | none =>
    rw [hfound, Option.map_none, eq_comm, Option.map_eq_none_iff] at h
    rw [h]
  | some t =>
    rw [hfound, Option.map_some, eq_comm, Option.map_eq_some_iff] at h
    obtain ⟨t', hfound', hrepresentation⟩ := h
    have hrepresented : t'.represented = t.represented := by
      rw [RecordType.represented, RecordType.represented, hrepresentation]
    rw [hfound']
    split
    · rfl
    · split
      · rfl
      · exact hrepresented.symm

/-- The dotted form of a nested path is no segment that the path starts with. -/
theorem ne_joinWith_cons {first : Text} {rest : List Text} (h : rest ≠ []) :
    first ≠ joinWith ['.'] (first :: rest) := by
  intro heq
  have hlength := congrArg List.length heq
  rw [joinWith_cons h, List.length_append, List.length_append, List.length_singleton] at hlength
  omega

/-- What is looked up at a path, and what makes no difference to it. -/
structure FoundByPath (hint hint' : ColumnHint) : Prop where
  /-- What the path leads to is represented. -/
  found : ∀ {fields : List (Text × RecordType)} {segments : List Text} {t : RecordType},
    segments ≠ [] → segments ≠ [wholeField] → RecordType.Leads (.struct fields) segments t →
      fieldType (.struct fields) (.path segments) hint = t.represented
  /-- A path that leads nowhere is told as it was asked for. -/
  lost : ∀ {fields : List (Text × RecordType)} {segments : List Text},
    segments ≠ [] → segments ≠ [wholeField] →
      (∀ t, ¬ RecordType.Leads (.struct fields) segments t) →
        fieldType (.struct fields) (.path segments) hint =
          .error (.missing (joinWith ['.'] segments))
  /-- Edits of the schema beside the path make no difference, nor does the hint. -/
  edited : ∀ {fields fields' : List (Text × RecordType)} {segments : List Text},
    RecordType.Edits segments (.struct fields) (.struct fields') →
      fieldType (.struct fields) (.path segments) hint =
        fieldType (.struct fields') (.path segments) hint'
  /-- A nested path is not hidden by a top-level field with its dotted form as name. -/
  nested : ∀ {first : Text} {rest : List Text}, rest ≠ [] →
    ∀ (before after : List (Text × RecordType)) (t : RecordType),
      fieldType (.struct (before ++ (joinWith ['.'] (first :: rest), t) :: after))
          (.path (first :: rest)) hint =
        fieldType (.struct (before ++ after)) (.path (first :: rest)) hint'
  /-- Nor is such a field hidden by the one that the nested path starts with. -/
  dotted : ∀ {first : Text} {rest : List Text}, rest ≠ [] →
    ∀ (before after : List (Text × RecordType)) (t : RecordType),
      fieldType (.struct (before ++ (first, t) :: after))
          (.path [joinWith ['.'] (first :: rest)]) hint =
        fieldType (.struct (before ++ after)) (.path [joinWith ['.'] (first :: rest)]) hint'
  /-- Not even if it is asked for by its name. -/
  named : ∀ {first : Text} {rest : List Text}, rest ≠ [] →
    ∀ (before after : List (Text × RecordType)) (t : RecordType),
      joinWith ['.'] (first :: rest) ∈ (before ++ after).map Prod.fst →
        fieldType (.struct (before ++ (first, t) :: after))
            (.name (joinWith ['.'] (first :: rest))) hint =
          fieldType (.struct (before ++ after)) (.name (joinWith ['.'] (first :: rest))) hint'

theorem fieldType_of_edits {hint hint' : ColumnHint}
    (h : RecordType.Edits segments (.struct fields) (.struct fields')) :
    fieldType (.struct fields) (.path segments) hint =
      fieldType (.struct fields') (.path segments) hint' :=
  fieldType_congr (RecordType.follow?_of_edits h) hint hint'

/-- A field with another name than the first segment makes no difference. -/
theorem fieldType_insert {hint hint' : ColumnHint} {segment name : Text} (h : name ≠ segment)
    (rest : List Text) (before after : List (Text × RecordType)) (t : RecordType) :
    fieldType (.struct (before ++ (name, t) :: after)) (.path (segment :: rest)) hint =
      fieldType (.struct (before ++ after)) (.path (segment :: rest)) hint' :=
  fieldType_of_edits (.symm _ _ (.rel _ _ (.other h rest before after t)))

/-- **The type of a field depends on nothing but its path**: on the first field with the name
of each segment, and of the last of them on its representation. -/
theorem fieldType_beside (hint hint' : ColumnHint) : FoundByPath hint hint' where
  found hne hpart h := fieldType_of_leads hne hpart h hint
  lost hne hpart h := fieldType_of_not_leads hne hpart h hint
  edited h := fieldType_of_edits h
  nested hrest before after t := fieldType_insert (ne_joinWith_cons hrest).symm _ before after t
  dotted hrest before after t := fieldType_insert (ne_joinWith_cons hrest) [] before after t
  named := by
    intro first rest hrest before after t hmem
    have hmem' : joinWith ['.'] (first :: rest) ∈
        (before ++ (first, t) :: after).map Prod.fst := by
      rw [List.map_append, List.mem_append] at hmem ⊢
      exact hmem.imp_right (List.mem_cons_of_mem first)
    rw [fieldType_name_of_mem hmem, fieldType_name_of_mem hmem']
    exact fieldType_insert (ne_joinWith_cons hrest) [] before after t

/-- A struct in an array is emptied, a field is put in beside the array, and two are put in
at the top level, one with a dotted name and one that repeats a name: a path to the array, one
beyond it and the dotted name find what they found. -/
theorem fieldType_beside_edits : ∃ fields fields' dotted : List (Text × RecordType),
    fields.map Prod.fst = ["a".toList] ∧
      fields'.map Prod.fst = ["a.b".toList, "a".toList, "a".toList] ∧
      dotted.map Prod.fst = ["a.b".toList] ∧
      (∀ rest, RecordType.Edits ("a".toList :: "b".toList :: rest) (.struct fields)
        (.struct fields')) ∧
      fieldType (.struct fields') (.path ["a".toList, "b".toList]) none = .ok (.list .row) ∧
      fieldType (.struct fields) (.path ["a".toList, "b".toList]) none =
        fieldType (.struct fields') (.path ["a".toList, "b".toList]) (some "text".toList) ∧
      fieldType (.struct fields') (.path ["a".toList, "b".toList, "x".toList]) none =
        .error (.missing "a.b.x".toList) ∧
      fieldType (.struct fields) (.path ["a".toList, "b".toList, "x".toList]) none =
        fieldType (.struct fields') (.path ["a".toList, "b".toList, "x".toList]) none ∧
      fieldType (.struct (dotted ++ fields)) (.path ["a".toList, "b".toList]) none =
        fieldType (.struct fields) (.path ["a".toList, "b".toList]) none ∧
      fieldType (.struct (fields ++ dotted)) (.path ["a.b".toList]) none =
        fieldType (.struct dotted) (.path ["a.b".toList]) none ∧
      fieldType (.struct (fields ++ dotted)) (.name "a.b".toList) none =
        fieldType (.struct dotted) (.name "a.b".toList) none := by
  let array : Text × RecordType := ("b".toList, .array (.struct [("x".toList, .leaf .variant)]))
  let array' : Text × RecordType := ("b".toList, .array (.struct []))
  let inner' : List (Text × RecordType) := [("c".toList, .leaf .variant), array']
  let fields : List (Text × RecordType) := [("a".toList, .struct [array])]
  let fields' : List (Text × RecordType) := [("a.b".toList, .leaf .boolean),
    ("a".toList, .struct inner'), ("a".toList, .leaf .long)]
  have hemptied : ∀ rest, RecordType.Edits ("a".toList :: "b".toList :: rest) (.struct fields)
      (.struct [("a".toList, .struct [array'])]) := fun rest =>
    .rel _ _ (.inside (.inside (.element (.atEnd _ _) rest) "b".toList [] []) "a".toList [] [])
  have hbeside : ∀ rest, RecordType.Edits ("a".toList :: "b".toList :: rest)
      (.struct [("a".toList, .struct [array'])]) (.struct [("a".toList, .struct inner')]) :=
    fun rest => .rel _ _ (.inside (.other (by decide) rest [] [array'] _) "a".toList [] [])
  have hdotted : ∀ rest, RecordType.Edits ("a".toList :: "b".toList :: rest)
      (.struct [("a".toList, .struct inner')]) (.struct (fields'.take 2)) := fun rest =>
    .rel _ _ (.other (by decide) _ [] _ _)
  have hname : "a".toList ∈ (fields'.take 2).map Prod.fst := by decide
  have hrepeated : ∀ rest, RecordType.Edits ("a".toList :: "b".toList :: rest)
      (.struct (fields'.take 2)) (.struct fields') := fun rest =>
    .rel _ _ (.repeated hname _ _ [] _)
  have hedits : ∀ rest, RecordType.Edits ("a".toList :: "b".toList :: rest) (.struct fields)
      (.struct fields') := fun rest => (hemptied rest).trans _ _ _
    ((hbeside rest).trans _ _ _ ((hdotted rest).trans _ _ _ (hrepeated rest)))
  have hleads : RecordType.Leads (.struct fields') ["a".toList, "b".toList] array'.2 :=
    RecordType.follow?_eq_some_iff.1 rfl
  have hnowhere : ∀ t, ¬ RecordType.Leads (.struct fields') ["a".toList, "b".toList, "x".toList] t :=
    fun t h => by cases RecordType.follow?_eq_some_iff.2 h
  have hrest : ["b".toList] ≠ [] := List.cons_ne_nil _ _
  have hfound := fieldType_beside none none
  exact ⟨fields, fields', [("a.b".toList, .leaf .boolean)], rfl, rfl, rfl, hedits,
    hfound.found (List.cons_ne_nil _ _) (by decide) hleads,
    (fieldType_beside none (some "text".toList)).edited (hedits []),
    hfound.lost (List.cons_ne_nil _ _) (by decide) hnowhere, hfound.edited (hedits ["x".toList]),
    hfound.nested hrest [] fields _, hfound.dotted hrest [] _ _,
    hfound.named hrest [] _ _ (by decide)⟩

end PartSchema
end TopicTables
