import TopicTables.Proofs.Discovery.Isolation
import TopicTables.Proofs.Table.Resolution

/-! What discovery finds out about the tables of a bag.

`report` says what is wrong with one table, given those that stand before it: all of its
violations if it does not resolve, and one if an earlier table resolves to a configuration
of the same key. Building one more draft adds just that (`Surveyed.next`), so a survey that
reaches the end holds the reports on all tables, and every configuration if there are none
(`Surveyed.foldlM`). -/
namespace TopicTables

section Reports
variable (resolution : Address → Except Failure Config)

/-- The configurations of the tables that resolve. -/
def resolved (tables : List Address) : List Config :=
  tables.filterMap fun a => (resolution a).toOption

/-- What is wrong with a table that stands behind others. -/
def report (earlier : List Address) (a : Address) : List Violation :=
  match resolution a with
  | .ok c => match (resolved resolution earlier).find? fun first => first.key = c.key with
    | some first => [⟨a.stem, none, .repeated c.qualifiedName c.topic (first.pathOf ['*'])⟩]
    | none => []
  | .error (.rejected violations) => violations
  | .error (.aborted _) => []

/-- What is wrong with tables that stand behind others, one after the other. -/
def reports : List Address → List Address → List Violation
  | _, [] => []
  | earlier, a :: tables => report resolution earlier a ++ reports (earlier ++ [a]) tables

/-- A report is on a table that does not resolve, or on one that is configured twice. -/
theorem mem_reports {resolution : Address → Except Failure Config} {earlier tables : List Address}
    {v : Violation} (h : v ∈ reports resolution earlier tables) :
    (∃ table topic path, v.finding = .repeated table topic path) ∨
      ∃ a ∈ tables, ∃ violations, resolution a = .error (.rejected violations) ∧ v ∈ violations := by
  induction tables generalizing earlier with
  | nil => cases h
  | cons a tables ih =>
    rw [reports, List.mem_append] at h
    rcases h with hfirst | hrest
    · rw [report] at hfirst
      split at hfirst
      · split at hfirst
        · obtain rfl := List.mem_singleton.1 hfirst
          exact .inl ⟨_, _, _, rfl⟩
        · cases hfirst
      · next violations hrejected => exact .inr ⟨a, List.mem_cons_self, violations, hrejected, hfirst⟩
      · cases hfirst
    · refine (ih hrest).imp_right fun hsome => ?_
      obtain ⟨b, hb, hrejected⟩ := hsome
      exact ⟨b, List.mem_cons_of_mem a hb, hrejected⟩

end Reports

section Surveyed
variable {resolution : Address → Except Failure Config}

theorem resolved_append (tables others : List Address) :
    resolved resolution (tables ++ others) =
      resolved resolution tables ++ resolved resolution others :=
  List.filterMap_append

theorem resolved_of_ok {a : Address} {c : Config} (h : resolution a = .ok c) :
    resolved resolution [a] = [c] := by
  simp [resolved, h, Except.toOption]

theorem resolved_of_error {a : Address} {failure : Failure} (h : resolution a = .error failure) :
    resolved resolution [a] = [] := by
  simp [resolved, h, Except.toOption]

theorem reports_concat (earlier tables : List Address) (a : Address) :
    reports resolution earlier (tables ++ [a]) =
      reports resolution earlier tables ++ report resolution (earlier ++ tables) a := by
  induction tables generalizing earlier with
  | nil => simp [reports]
  | cons b tables ih =>
    rw [List.cons_append, reports, reports, ih, List.append_assoc, List.append_assoc]
    simp

/-- What a survey holds once it has looked at tables. -/
structure Surveyed (resolution : Address → Except Failure Config) (done : List Address)
    (s : Survey) : Prop where
  violations : s.violations = reports resolution [] done
  /-- The configuration of a key is the first that resolved to it. -/
  find? : ∀ k, s.configs.find? k = (resolved resolution done).find? fun c => c.key = k
  /-- As long as nothing is wrong, there is a configuration of every table. -/
  complete : s.violations = [] → done.map resolution = s.configs.items.map .ok

namespace Surveyed
variable {done : List Address} {s : Survey}

theorem empty : Surveyed resolution [] .empty :=
  ⟨rfl, fun _ => rfl, fun _ => rfl⟩

theorem receive_new (h : Surveyed resolution done s) {d : Draft} {c : Config}
    (hc : resolution d.address = .ok c) (hnew : c.key ∉ s.configs.keys) :
    Surveyed resolution (done ++ [d.address]) (s.receive d c) := by
  have hreport : report resolution done d.address = [] := by
    rw [report, hc]
    simp only
    rw [← h.find? c.key, Roster.find?_eq_none_iff.2 hnew]
  obtain ⟨configs, hadd⟩ : ∃ configs, s.configs.add? c = some configs :=
    Option.ne_none_iff_exists'.1 fun hnone => hnew ((Roster.add?_eq_none_iff s.configs c).1 hnone)
  have hitems := Roster.items_of_add?_eq_some hadd
  have hreceive : s.receive d c = { s with configs } := by
    rw [Survey.receive, hadd]
  rw [hreceive]
  refine ⟨?_, fun k => ?_, fun hclean => ?_⟩
  · rw [reports_concat, List.nil_append, hreport, List.append_nil]
    exact h.violations
  · rw [resolved_append, resolved_of_ok hc, List.find?_append, ← h.find? k, Roster.find?, hitems,
      List.find?_append, Roster.find?]
  · simp only at hclean ⊢
    rw [hitems, List.map_append, List.map_append, h.complete hclean, List.map_singleton,
      List.map_singleton, hc]

theorem receive_repeated (h : Surveyed resolution done s) {d : Draft} {c : Config}
    (hc : resolution d.address = .ok c) (hold : c.key ∈ s.configs.keys) :
    Surveyed resolution (done ++ [d.address]) (s.receive d c) := by
  obtain ⟨first, hfirst⟩ : ∃ first, s.configs.find? c.key = some first :=
    Option.ne_none_iff_exists'.1 fun hnone => Roster.find?_eq_none_iff.1 hnone hold
  have hreport : report resolution done d.address =
      [⟨d.address.stem, none, .repeated c.qualifiedName c.topic (first.pathOf ['*'])⟩] := by
    rw [report, hc]
    simp only
    rw [← h.find? c.key, hfirst]
  have hreceive : s.receive d c =
      { s with violations := s.violations ++ report resolution done d.address } := by
    rw [Survey.receive, (Roster.add?_eq_none_iff s.configs c).2 hold, hreport, hfirst]
    rfl
  rw [hreceive]
  refine ⟨?_, fun k => ?_, fun hclean => ?_⟩
  · rw [reports_concat, List.nil_append, ← h.violations]
  · -- The configuration is not kept, but the first one of its key is found in front of it.
    rw [resolved_append, resolved_of_ok hc, List.find?_append, ← h.find? k]
    by_cases hk : c.key = k
    · rw [← hk, hfirst]
      rfl
    · simp [hk]
  · simp [hreport] at hclean

theorem refuse (h : Surveyed resolution done s) {a : Address} {violations : List Violation}
    (ha : resolution a = .error (.rejected violations)) (hne : violations ≠ []) :
    Surveyed resolution (done ++ [a]) { s with violations := s.violations ++ violations } := by
  have hreport : report resolution done a = violations := by
    rw [report, ha]
  refine ⟨?_, fun k => ?_, fun hclean => ?_⟩
  · rw [reports_concat, List.nil_append, hreport, ← h.violations]
  · rw [resolved_append, resolved_of_error ha, List.append_nil]
    exact h.find? k
  · exact absurd (List.append_eq_nil_iff.1 hclean).2 hne

/-- **Building one more draft adds the report on its table.** -/
theorem next (h : Surveyed resolution done s) {d : Draft} {s' : Survey}
    (hbuild : d.build = resolution d.address) (hnamed : d.build ≠ .error (.rejected []))
    (hnext : s.next d = .ok s') : Surveyed resolution (done ++ [d.address]) s' := by
  rw [Survey.next] at hnext
  split at hnext
  · next c hc =>
    cases hnext
    rw [hbuild] at hc
    by_cases hkey : c.key ∈ s.configs.keys
    · exact h.receive_repeated hc hkey
    · exact h.receive_new hc hkey
  · next violations hviolations =>
    cases hnext
    have hne : violations ≠ [] := fun hnil => hnamed (hnil ▸ hviolations)
    exact h.refuse (hbuild ▸ hviolations) hne
  · cases hnext

theorem foldlM (h : Surveyed resolution done s) {drafts : List Draft} {s' : Survey}
    (hbuild : ∀ d ∈ drafts, d.build = resolution d.address ∧ d.build ≠ .error (.rejected []))
    (hrun : drafts.foldlM Survey.next s = .ok s') :
    Surveyed resolution (done ++ drafts.map Draft.address) s' := by
  induction drafts generalizing done s with
  | nil =>
    cases hrun
    simpa using h
  | cons d drafts ih =>
    rw [List.foldlM_cons] at hrun
    obtain ⟨middle, hnext, hrun⟩ := bind_eq_ok hrun
    obtain ⟨hd, hnamed⟩ := hbuild d List.mem_cons_self
    have hmiddle := h.next hd hnamed hnext
    rw [List.map_cons, List.append_cons]
    exact ih hmiddle (fun d' hd' => hbuild d' (List.mem_cons_of_mem d hd')) hrun

end Surveyed
end Surveyed
end TopicTables
