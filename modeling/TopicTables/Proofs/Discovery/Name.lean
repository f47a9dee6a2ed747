import Mathlib.Computability.Language
import TopicTables.Proofs.Discovery.Outcome
import TopicTables.Proofs.Table.Report

/-! Names in settings keys.

A key is recognized by a pattern for its names, and a name is read as an identifier by
counting quotes from its two ends. `NamePattern.names` is the pattern as a regular
language: what it matches is what keys are cut into (`mem_names_iff`), and among the texts
that start with a quote these are the identifiers (`isName_iff_parse`). So no table that
discovery finds is refused for its names (`quoted_names_agree`). -/
namespace TopicTables

open scoped Computability

/-! ### The pattern of names -/

namespace NamePattern

/-- Any one character that is not excluded. -/
def noneOf (excluded : List Char) : Language Char := {t | ∃ c, c ∉ excluded ∧ t = [c]}

/-- One or more times. -/
def repeated (l : Language Char) : Language Char := l * l∗

/-- A character between quotes: none that is a quote, or two quotes. -/
def unit : Language Char := noneOf ['"'] + {['"', '"']}

/-- The names of settings keys: units between quotes, or characters that are neither
quotes nor dots. -/
def names : Language Char := {['"']} * repeated unit * {['"']} + repeated (noneOf ['"', '.'])

section Words
variable {l : Language Char} {Allowed : Char → Prop} {word : Char → Text}

/-- Where each word stands for a character, what a star repeats are characters. -/
theorem mem_kstar_iff (hl : ∀ t, t ∈ l ↔ ∃ c, Allowed c ∧ t = word c) {t : Text} :
    t ∈ l∗ ↔ ∃ cs : Text, (∀ c ∈ cs, Allowed c) ∧ t = cs.flatMap word := by
  rw [Language.mem_kstar]
  constructor
  · intro h
    obtain ⟨words, rfl, hall⟩ := h
    induction words with
    | nil => exact ⟨[], by simp, rfl⟩
    | cons u words ih =>
      obtain ⟨hu, hrest⟩ := List.forall_mem_cons.1 hall
      obtain ⟨cs, hcs, heq⟩ := ih hrest
      obtain ⟨c, hc, rfl⟩ := (hl u).1 hu
      exact ⟨c :: cs, List.forall_mem_cons.2 ⟨hc, hcs⟩, by rw [List.flatten_cons, heq]; rfl⟩
  · intro h
    obtain ⟨cs, hcs, rfl⟩ := h
    refine ⟨cs.map word, List.flatMap_def, fun u hu => ?_⟩
    obtain ⟨c, hc, rfl⟩ := List.mem_map.1 hu
    exact (hl _).2 ⟨c, hcs c hc, rfl⟩

theorem mem_repeated_iff (hl : ∀ t, t ∈ l ↔ ∃ c, Allowed c ∧ t = word c) {t : Text} :
    t ∈ repeated l ↔ ∃ cs : Text, cs ≠ [] ∧ (∀ c ∈ cs, Allowed c) ∧ t = cs.flatMap word := by
  rw [repeated, Language.mem_mul]
  constructor
  · intro h
    obtain ⟨first, hfirst, others, hothers, rfl⟩ := h
    obtain ⟨c, hc, rfl⟩ := (hl first).1 hfirst
    obtain ⟨cs, hcs, rfl⟩ := (mem_kstar_iff hl).1 hothers
    exact ⟨c :: cs, List.cons_ne_nil c cs, List.forall_mem_cons.2 ⟨hc, hcs⟩, rfl⟩
  · intro h
    obtain ⟨cs, hne, hcs, rfl⟩ := h
    obtain ⟨c, cs, rfl⟩ := List.exists_cons_of_ne_nil hne
    obtain ⟨hc, hcs⟩ := List.forall_mem_cons.1 hcs
    exact ⟨word c, (hl _).2 ⟨c, hc, rfl⟩, cs.flatMap word, (mem_kstar_iff hl).2 ⟨cs, hcs, rfl⟩, rfl⟩

end Words

/-- A unit is one character as it is written between quotes. -/
theorem mem_unit_iff {t : Text} : t ∈ unit ↔ ∃ c, t = Quoted.double [c] := by
  rw [unit, Language.mem_add]
  constructor
  · intro h
    rcases h with ⟨c, hc, rfl⟩ | rfl
    · have hquote : c ≠ '"' := by simpa using hc
      exact ⟨c, by simp [Quoted.double, hquote]⟩
    · exact ⟨'"', rfl⟩
  · intro h
    obtain ⟨c, rfl⟩ := h
    by_cases hquote : c = '"'
    · exact .inr (by rw [hquote]; rfl)
    · exact .inl ⟨c, by simpa using hquote, by simp [Quoted.double, hquote]⟩

theorem mem_repeated_unit {t : Text} :
    t ∈ repeated unit ↔ ∃ exact ≠ [], t = Quoted.double exact := by
  have hunit : ∀ u, u ∈ unit ↔ ∃ c, True ∧ u = Quoted.double [c] := by simp [mem_unit_iff]
  have hdouble : ∀ cs : Text, cs.flatMap (fun c => Quoted.double [c]) = Quoted.double cs := by
    simp [Quoted.double]
  rw [mem_repeated_iff hunit]
  simp [hdouble]

theorem mem_repeated_noneOf {excluded : List Char} {t : Text} :
    t ∈ repeated (noneOf excluded) ↔ t ≠ [] ∧ ∀ c ∈ t, c ∉ excluded := by
  have hword : ∀ u, u ∈ noneOf excluded ↔ ∃ c, c ∉ excluded ∧ u = [c] := fun _ => Iff.rfl
  rw [mem_repeated_iff hword]
  simp

/-- **The pattern matches the names that keys are cut into.** -/
theorem mem_names_iff {t : Text} : t ∈ names ↔ IsName t := by
  rw [names, Language.mem_add, mem_repeated_noneOf, Language.mem_mul]
  constructor
  · intro h
    rcases h with ⟨front, hfront, last, rfl, rfl⟩ | ⟨hne, hchars⟩
    · obtain ⟨first, rfl, body, hbody, rfl⟩ := Language.mem_mul.1 hfront
      obtain ⟨exact, hexact, rfl⟩ := mem_repeated_unit.1 hbody
      exact .quoted hexact
    · exact .plain hne (fun hdot => hchars '.' hdot (by simp))
        fun hquote => hchars '"' hquote (by simp)
  · intro h
    cases h with
    | plain hne hdot hquote =>
      refine .inr ⟨hne, fun c hc hmem => ?_⟩
      rcases List.mem_pair.1 hmem with rfl | rfl
      · exact hquote hc
      · exact hdot hc
    | quoted hexact =>
      have hbody := mem_repeated_unit.2 ⟨_, hexact, rfl⟩
      exact .inl ⟨_, Language.append_mem_mul rfl hbody, ['"'], rfl, rfl⟩

end NamePattern

/-! ### Names and identifiers -/

/-- A quoted name of a key is a quoted identifier, and a quoted identifier a name. -/
theorem isName_iff_parse {t : Text} (h : t.head? = some '"') :
    IsName t ↔ ∃ i, Identifier.parse t = .ok i := by
  simp only [Identifier.parse_eq_ok_iff]
  constructor
  · intro hname
    cases hname with
    | plain _ _ hquote => exact absurd (List.mem_of_mem_head? h) hquote
    | quoted hexact => exact ⟨_, .quoted hexact⟩
  · intro hparse
    obtain ⟨i, hspelling⟩ := hparse
    cases hspelling with
    | quoted hexact => exact .quoted hexact
    | unquoted _ hhead => exact absurd h hhead

/-- Every name of a key is an identifier. -/
theorem IsName.parse {t : Text} (h : IsName t) : ∃ i, Identifier.parse t = .ok i := by
  cases h with
  | plain hne _ hquote =>
    exact ⟨_, Identifier.parse_of_head_ne hne fun h => hquote (List.mem_of_mem_head? h)⟩
  | quoted hexact => exact ⟨_, Identifier.parse_enclose hexact⟩

/-! ### The names of discovered tables -/

/-- No table of the bag can be refused for its names. -/
structure NamesAccepted (bag : Bag) : Prop where
  /-- The names of every table are identifiers. -/
  parsed : ∀ a ∈ (group bag).keys,
    (∃ i, Identifier.parse a.keyspace = .ok i) ∧ ∃ i, Identifier.parse a.table = .ok i
  /-- Whatever the settings of a table are, the checks of its names find nothing. -/
  checked : ∀ a ∈ (group bag).keys, ∀ p,
    found (Checks.of a p).keyspace = [] ∧ found (Checks.of a p).table = []
  /-- No violation of a discovery is about a name. -/
  unreported : ∀ violations, discover bag = .error (.rejected violations) →
    ∀ v ∈ violations, ∀ e, v.finding ≠ .name e

section Accepted
variable {a : Address} {bag : Bag}

theorem found_checkName {name : Text} (h : IsName name) : found (checkName a name) = [] := by
  obtain ⟨i, hi⟩ := h.parse
  rw [checkName_eq_ok_iff.2 hi]
  rfl

/-- A table whose names are those of keys has no violation about a name. -/
theorem finding_ne_name (ha : a.Admissible) {violations : List Violation}
    (h : resolve a bag = .error (.rejected violations)) {v : Violation} (hv : v ∈ violations)
    (e : IdentifierError) : v.finding ≠ .name e := by
  intro hname
  have hwithin : ¬ (tableSchema a).ExceededIn bag := by
    rw [← resolve_aborted_iff, h]
    simp
  have hlisted := (reported_resolve hwithin).listed
  rw [h] at hlisted
  obtain ⟨check, -, hfails⟩ := hlisted.mem_iff.1 hv
  obtain ⟨keyspace, hkeyspace⟩ := ha.keyspace.parse
  obtain ⟨table, htable⟩ := ha.table.parse
  rcases hfails.parse_eq_error hname with he | he
  · rw [hkeyspace] at he
    cases he
  · rw [htable] at he
    cases he

theorem namesAccepted (bag : Bag) : NamesAccepted bag := by
  refine ⟨fun a ha => ?_, fun a ha p => ?_, fun violations h v hv e => ?_⟩
  · have hadmissible := admissible_of_mem_keys ha
    exact ⟨hadmissible.keyspace.parse, hadmissible.table.parse⟩
  · have hadmissible := admissible_of_mem_keys ha
    exact ⟨found_checkName hadmissible.keyspace, found_checkName hadmissible.table⟩
  · rw [reports_of_discover h] at hv
    rcases mem_reports hv with ⟨table, topic, path, hrepeated⟩ | ⟨a, ha, vs, hrejected, hv⟩
    · rw [hrepeated]
      simp
    · exact finding_ne_name (admissible_of_mem_keys ha) hrejected hv e

/-- **Keys and identifiers agree on quoted names.** A text that starts with a quote is
matched by the pattern of names exactly if it is read as an identifier, and the pattern is
what keys are read with; so discovery never refuses a table for its names. -/
theorem quoted_names_agree :
    (∀ t, t ∈ NamePattern.names ↔ SettingKey.takeName? t = some (t, [])) ∧
      (∀ t : Text, t.head? = some '"' →
        (t ∈ NamePattern.names ↔ ∃ i, Identifier.parse t = .ok i)) ∧
      ∀ bag, NamesAccepted bag := by
  refine ⟨fun t => ?_, fun t ht => ?_, namesAccepted⟩
  · rw [NamePattern.mem_names_iff, SettingKey.takeName?_whole_iff]
  · rw [NamePattern.mem_names_iff, isName_iff_parse ht]

/-- Six quotes are a name and an identifier, seven neither; and a table between such quotes
is refused for its missing mapping alone. -/
theorem quoted_names_agree_six :
    List.replicate 6 '"' ∈ NamePattern.names ∧ List.replicate 7 '"' ∉ NamePattern.names ∧
      ∃ (bag : Bag) (a : Address) (v : Violation), a ∈ (group bag).keys ∧
        a.table = List.replicate 6 '"' ∧ discover bag = .error (.rejected [v]) ∧
        ∀ e, v.finding ≠ .name e := by
  let a : Address := ⟨"t".toList, "ks".toList, List.replicate 6 '"'⟩
  let bag : Bag := .ofList [(a.path .ttl, .text "5".toList)]
  obtain ⟨-, hquoted, haccepted⟩ := quoted_names_agree
  have hrejected : discover bag =
      .error (.rejected [⟨a.path .mapping, none, .missing (a.path .mapping)⟩]) :=
    eq_rejected_of_reportedBy (by decide +kernel)
  refine ⟨(hquoted _ rfl).2 ⟨_, rfl⟩, fun hseven => ?_, bag, a, _, by decide +kernel, rfl,
    hrejected, (haccepted bag).unreported _ hrejected _ List.mem_cons_self⟩
  obtain ⟨i, hi⟩ := (hquoted _ rfl).1 hseven
  have hfailed : (Identifier.parse (List.replicate 7 '"')).isOk = false := rfl
  rw [hi] at hfailed
  cases hfailed

end Accepted
end TopicTables
