import TopicTables.Proofs.Identifier

/-! Names in quotes, written and read.

Any non-empty text can be written between quotes with each of its own quotes doubled, and
nothing else that starts with a quote is a name: writing and reading undo each other
(`quotation_inverse`). Whether the quotes of a body are doubled can also be told from what
is left when the pairs are taken out, however long its runs of quotes are
(`undouble?_eq_ite`). -/
namespace TopicTables

namespace Quoted

/-- The text with every two quotes in a row, paired from the left, replaced. -/
def replacePairs (mark : Text) : Text → Text
  | [] => []
  | [c] => [c]
  | c :: d :: t =>
    if c = '"' ∧ d = '"' then mark ++ replacePairs mark t else c :: replacePairs mark (d :: t)

theorem replacePairs_pair (mark t : Text) :
    replacePairs mark ('"' :: '"' :: t) = mark ++ replacePairs mark t := by
  simp [replacePairs]

theorem replacePairs_cons {c : Char} (h : c ≠ '"') (mark t : Text) :
    replacePairs mark (c :: t) = c :: replacePairs mark t := by
  cases t <;> simp [replacePairs, h]

/-- A quote in front of another character is in no pair. -/
theorem replacePairs_lone {c : Char} (h : c ≠ '"') (mark t : Text) :
    replacePairs mark ('"' :: c :: t) = '"' :: replacePairs mark (c :: t) := by
  simp [replacePairs, h]

/-- **A body is undoubled if no quote is left without its pairs**, and then each pair stands
for one quote. -/
theorem undouble?_eq_ite (body : Text) : undouble? body =
    if '"' ∈ replacePairs [] body then none else some (replacePairs ['"'] body) := by
  fun_induction undouble? body with
  | case1 => rfl
  | case2 => rfl
  | case3 c hc => simp [replacePairs, Ne.symm hc]
  | case4 c d t hc ih =>
    have hmem : '"' ∈ c :: replacePairs [] (d :: t) ↔ '"' ∈ replacePairs [] (d :: t) := by
      simp [Ne.symm hc]
    simp only [ih, replacePairs_cons hc, hmem]
    split <;> rfl
  | case5 c t hc ih =>
    obtain rfl : c = '"' := Decidable.not_not.1 hc
    rw [ih, replacePairs_pair, replacePairs_pair, List.nil_append]
    split <;> rfl
  | case6 c d t hc hd =>
    obtain rfl : c = '"' := Decidable.not_not.1 hc
    rw [replacePairs_lone hd, if_pos List.mem_cons_self]

end Quoted

namespace Identifier

/-- What starts with a quote is read as exactly the name that it is written for. -/
theorem parse_quote_eq_ok_iff {rest : Text} {i : Identifier} : parse ('"' :: rest) = .ok i ↔
    i.quoting = .quoted ∧ i.internal ≠ [] ∧ i.render = '"' :: rest := by
  constructor
  · intro h
    have hspelling := parse_eq_ok_iff.1 h
    generalize hraw : '"' :: rest = raw at hspelling
    cases hspelling with
    | quoted hne => exact ⟨rfl, hne, rfl⟩
    | unquoted _ hhead =>
      rw [← hraw] at hhead
      exact absurd rfl hhead
  · intro h
    obtain ⟨hquoting, hne, hrender⟩ := h
    have hi : i = .quoted i.internal := by rw [quoted, ← hquoting]
    rw [← hrender, render, parse_enclose hne, ← hi]

/-- What becomes of a body between quotes. -/
theorem parse_enclose_eq_ite (body : Text) : parse (Quoted.enclose body) =
    if body = [] then .error .emptyQuoted
    else if '"' ∈ Quoted.replacePairs [] body then .error (.loneQuote (Quoted.enclose body))
    else .ok (.quoted (Quoted.replacePairs ['"'] body)) := by
  show parseQuoted (body ++ ['"']) = _
  rw [parseQuoted, List.getLast?_concat, List.dropLast_concat, Quoted.undouble?_eq_ite, if_neg]
  · by_cases hlone : '"' ∈ Quoted.replacePairs [] body
    · simp only [if_pos hlone]
      rfl
    · simp only [if_neg hlone]
  · exact not_not_intro rfl

/-- **Writing names in quotes and reading them undo each other.** The rendered form of any
name but the empty one reads back as exactly that name, and so does the shown form; what
starts with a quote is a name just if it is the rendered form of one; and a body between
quotes is refused just if it is empty or a quote is left of it without its pairs. -/
theorem quotation_inverse :
    (∀ i : Identifier, i.internal ≠ [] → parse i.render = .ok (.quoted i.internal) ∧
      ∃ j, parse i.pretty = .ok j ∧ j.internal = i.internal) ∧
    (∀ rest, (∃ i, parse ('"' :: rest) = .ok i) ↔
      ∃ i : Identifier, i.internal ≠ [] ∧ i.render = '"' :: rest) ∧
    (∀ rest i, parse ('"' :: rest) = .ok i →
      i.quoting = .quoted ∧ i.internal ≠ [] ∧ i.render = '"' :: rest) ∧
    ∀ body, (∃ i, parse (Quoted.enclose body) = .ok i) ↔
      body ≠ [] ∧ '"' ∉ Quoted.replacePairs [] body := by
  refine ⟨fun i h => ⟨parse_enclose h, ?_⟩, fun rest => ⟨?_, ?_⟩,
    fun rest i => parse_quote_eq_ok_iff.1, fun body => ?_⟩
  · obtain ⟨j, hspelling, hinternal⟩ := spelling_pretty h
    exact ⟨j, parse_eq_ok_iff.2 hspelling, hinternal⟩
  · rintro ⟨i, h⟩
    exact ⟨i, (parse_quote_eq_ok_iff.1 h).2⟩
  · rintro ⟨i, hne, hrender⟩
    exact ⟨.quoted i.internal, parse_quote_eq_ok_iff.2 ⟨rfl, hne, hrender⟩⟩
  · rw [parse_enclose_eq_ite]
    split
    · next hbody => simp [hbody]
    · next hbody => split <;> simp [*]

/-- A name that starts with two quotes and ends with one, and a run of three quotes. -/
theorem quotation_inverse_runs : ∃ (i : Identifier) (rest : Text),
    i.internal = "\"\"a\"".toList ∧ i.internal ≠ [] ∧ i.render = '"' :: rest ∧
      rest = "\"\"\"\"a\"\"\"".toList ∧ parse ('"' :: rest) = .ok (.quoted i.internal) ∧
      (Identifier.quoted i.internal).render = '"' :: rest ∧
      ¬ ∃ j, parse (Quoted.enclose "\"".toList) = .ok j := by
  have hne : (Identifier.unquoted "\"\"a\"".toList).internal ≠ [] := by decide
  have hread := (quotation_inverse.1 _ hne).1
  refine ⟨.unquoted "\"\"a\"".toList, _, by decide, hne, rfl, by decide, hread,
    (quotation_inverse.2.2.1 _ _ hread).2.2, fun h => ?_⟩
  exact absurd ((quotation_inverse.2.2.2 _).1 h).2 (by decide)

end Identifier
end TopicTables
