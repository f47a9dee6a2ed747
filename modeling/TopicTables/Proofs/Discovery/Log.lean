import TopicTables.Discovery.Log
import TopicTables.Proofs.Discovery.Outcome

/-! What discovery logs.

Resolving a table logs the same whether it is done alone or from a draft, and building one
more draft adds just that to the log (`Survey.nextLogged_eq`). So a discovery that reaches
its end has logged every table in turn and closes with a count (`discoverLogged_of_ok`,
`discoverLogged_of_rejected`). What comes of it is what comes of a discovery that logs nothing
(`outcome_discoverLogged`). -/
namespace TopicTables

/-! ### One table -/

section Table
variable {a : Address} {bag : Bag}

theorem resolveLogged_of_ok {c : Config} (h : resolve a bag = .ok c) :
    resolveLogged a bag = ⟨.ok c, [.resolving a, .resolved c.topic c.qualifiedName]⟩ := by
  unfold resolveLogged
  rw [h]
  rfl

theorem resolveLogged_of_error {failure : Failure} (h : resolve a bag = .error failure) :
    resolveLogged a bag = ⟨.error failure, [.resolving a]⟩ := by
  unfold resolveLogged
  rw [h]
  rfl

theorem outcome_resolveLogged (a : Address) (bag : Bag) :
    (resolveLogged a bag).outcome = resolve a bag := by
  cases h : resolve a bag with
  | ok c => rw [resolveLogged_of_ok h]
  | error failure => rw [resolveLogged_of_error h]

theorem Draft.buildLogged_of_mem {d : Draft} (hd : d ∈ (group bag).items) :
    d.buildLogged = resolveLogged d.address bag := by
  unfold buildLogged resolveLogged
  rw [← Draft.build_of_mem hd, build]

/-- Building one more draft logs what resolving its table logs, and nothing else. -/
theorem Survey.nextLogged_eq (s : Survey) (d : Draft) :
    s.nextLogged d = ⟨s.next d, d.buildLogged.log⟩ := by
  have houtcome : d.buildLogged.outcome = d.build := outcome_resolveLogged d.address d.settings
  unfold nextLogged next
  rw [Logged.attempt_bind, houtcome]
  cases d.build with
  | ok c => simp
  | error failure => cases failure <;> simp [Logged.quiet]

end Table

/-! ### The tables, one after the other -/

/-- What is logged while the tables of a bag are resolved one after the other. -/
def tablesLog (bag : Bag) : List LogEvent :=
  (group bag).keys.flatMap fun a => (resolveLogged a bag).log

theorem foldlM_nextLogged_of_ok {drafts : List Draft} {s s' : Survey}
    (h : drafts.foldlM Survey.next s = .ok s') :
    drafts.foldlM Survey.nextLogged s = ⟨.ok s', drafts.flatMap fun d => d.buildLogged.log⟩ := by
  induction drafts generalizing s with
  | nil =>
    cases h
    rfl
  | cons d drafts ih =>
    rw [List.foldlM_cons] at h
    obtain ⟨middle, hnext, hrest⟩ := bind_eq_ok h
    rw [List.foldlM_cons, Survey.nextLogged_eq, Logged.bind_of_ok _ hnext, ih hrest]
    rfl

theorem outcome_foldlM_nextLogged (drafts : List Draft) (s : Survey) :
    (drafts.foldlM Survey.nextLogged s).outcome = drafts.foldlM Survey.next s := by
  induction drafts generalizing s with
  | nil => rfl
  | cons d drafts ih =>
    rw [List.foldlM_cons, List.foldlM_cons, Survey.nextLogged_eq]
    cases hnext : s.next d with
    | ok middle =>
      rw [Logged.bind_of_ok _ rfl]
      exact ih middle
    | error halt =>
      rw [Logged.bind_of_error _ rfl]
      rfl

theorem surveyLogged_group {bag : Bag} {s : Survey} (h : survey (group bag).items = .ok s) :
    surveyLogged (group bag).items = ⟨.ok s, tablesLog bag⟩ := by
  have hlog : ∀ d ∈ (group bag).items, d.buildLogged.log = (resolveLogged d.address bag).log := by
    intro d hd
    rw [Draft.buildLogged_of_mem hd]
  rw [surveyLogged, foldlM_nextLogged_of_ok h, List.flatMap_congr hlog, tablesLog, Roster.keys,
    List.flatMap_map]

/-! ### The whole discovery -/

section Discovery
variable {bag : Bag}

theorem discoverLogged_of_survey {s : Survey} (h : survey (group bag).items = .ok s) :
    discoverLogged bag = s.close.after (tablesLog bag) := by
  unfold discoverLogged
  rw [surveyLogged_group h]
  rfl

theorem discoverLogged_of_ok {configs : List Config} (h : discover bag = .ok configs) :
    discoverLogged bag = ⟨.ok configs, tablesLog bag ++ [.discovered configs.length]⟩ := by
  have hreached : ∀ halt, discover bag ≠ .error (.aborted halt) := fun halt => by simp [h]
  obtain ⟨s, hsurvey⟩ := exists_survey_of_discover hreached
  rw [discover_of_survey hsurvey] at h
  split at h
  · next hclean =>
    cases h
    rw [discoverLogged_of_survey hsurvey, Survey.close, if_pos hclean]
    rfl
  · cases h

theorem discoverLogged_of_rejected {violations : List Violation}
    (h : discover bag = .error (.rejected violations)) :
    discoverLogged bag =
      ⟨.error (.rejected violations), tablesLog bag ++ [.invalid violations.length]⟩ := by
  have hreached : ∀ halt, discover bag ≠ .error (.aborted halt) := fun halt => by simp [h]
  obtain ⟨s, hsurvey⟩ := exists_survey_of_discover hreached
  rw [discover_of_survey hsurvey] at h
  split at h
  · cases h
  · next hne =>
    cases h
    rw [discoverLogged_of_survey hsurvey, Survey.close, if_neg hne]
    rfl

theorem Survey.outcome_close (s : Survey) : s.close.outcome = s.outcome := by
  unfold close outcome
  split <;> rfl

/-- Logging changes nothing in what comes of a discovery. -/
theorem outcome_discoverLogged (bag : Bag) : (discoverLogged bag).outcome = discover bag := by
  have hsurvey : (surveyLogged (group bag).items).outcome = survey (group bag).items :=
    outcome_foldlM_nextLogged _ _
  unfold discoverLogged discover
  rw [Logged.attempt_bind, hsurvey]
  cases survey (group bag).items with
  | ok s => exact s.outcome_close
  | error halt => rfl

end Discovery
end TopicTables
