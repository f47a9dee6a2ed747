import TopicTables.Proofs.Number.Numeral
import TopicTables.Proofs.Setting.Verdict

/-! Settings of type INT.

An INT setting is an integer of 32 bits or a numeral of one, with any white space around it.
`IntReading` lists what becomes of every raw value, and `coerceInt_exact` says that this is
what coercion does; so an integer of 32 bits is read back from each of the ways to write it,
as long as they have no more digits than can be read. -/
namespace TopicTables

/-- An integer of 32 bits with a sign. -/
def Is32Bit (n : Int) : Prop := -2 ^ 31 ≤ n ∧ n ≤ 2 ^ 31 - 1

instance : DecidablePred Is32Bit := fun n => inferInstanceAs (Decidable (-2 ^ 31 ≤ n ∧ _))

theorem is32Bit_iff {n : Int} : Is32Bit n ↔ minInt ≤ n ∧ n ≤ maxInt := by
  simp only [Is32Bit, minInt, maxInt]
  omega

/-- What becomes of a raw value of an INT setting. -/
inductive IntReading : Value → Except Refusal Value → Prop where
  | integer {n : Int} : Is32Bit n → IntReading (.scalar (.int n)) (.ok (.scalar (.int n)))
  | outside {n : Int} : ¬ Is32Bit n → IntReading (.scalar (.int n)) (.error (.fault .notInt))
  | numeral {t core digits : Text} {n : Int} : Padded core t → Numeral core digits n →
      digits.length ≤ 4300 → Is32Bit n → IntReading (.text t) (.ok (.scalar (.int n)))
  | numeralOutside {t core digits : Text} {n : Int} : Padded core t → Numeral core digits n →
      digits.length ≤ 4300 → ¬ Is32Bit n → IntReading (.text t) (.error (.fault .notInt))
  /-- The digits are too many to be read, whatever they denote. -/
  | overlong {t core digits : Text} {n : Int} : Padded core t → Numeral core digits n →
      4300 < digits.length →
      IntReading (.text t) (.error (.halt (.digits (.reading digits.length))))
  | noNumeral {t : Text} : (∀ core digits n, Padded core t → ¬ Numeral core digits n) →
      IntReading (.text t) (.error (.fault .notInt))
  /-- Neither an integer nor a text. -/
  | other {raw : Value} : (∀ n, raw ≠ .scalar (.int n)) → (∀ t, raw ≠ .text t) →
      IntReading raw (.error (.fault .notInt))

/-! ### Coercion -/

theorem intInRange_of_is32Bit {n : Int} (h : Is32Bit n) : intInRange n = .ok (.scalar (.int n)) :=
  if_pos (is32Bit_iff.1 h)

theorem intInRange_of_not_is32Bit {n : Int} (h : ¬ Is32Bit n) :
    intInRange n = .error (.fault .notInt) :=
  if_neg (mt is32Bit_iff.2 h)

section Texts
variable {t core digits : Text} {n : Int}

/-- White space around a numeral is taken off, and nothing else is. -/
theorem readInteger?_strip (ht : Padded core t) (h : Numeral core digits n) :
    readInteger? (strip t) = some (readAs digits n) := by
  rw [strip_padded ht h.trimmed, readInteger?_of_numeral h]

theorem coerceInt_of_numeral (ht : Padded core t) (h : Numeral core digits n)
    (hlength : digits.length ≤ maxDigits) : coerceInt (.text t) = intInRange n := by
  have hread := readInteger?_strip ht h
  rw [readAs, if_pos hlength] at hread
  simp only [coerceInt, hread]

theorem coerceInt_of_overlong (ht : Padded core t) (h : Numeral core digits n)
    (hlength : maxDigits < digits.length) :
    coerceInt (.text t) = .error (.halt (.digits (.reading digits.length))) := by
  have hread := readInteger?_strip ht h
  rw [readAs, if_neg (Nat.not_le_of_lt hlength)] at hread
  simp only [coerceInt, hread]

theorem coerceInt_of_not_numeral (h : ∀ core digits n, Padded core t → ¬ Numeral core digits n) :
    coerceInt (.text t) = .error (.fault .notInt) := by
  have hread : readInteger? (strip t) = none :=
    readInteger?_eq_none_iff.2 fun digits n => h (strip t) digits n (padded_strip t)
  simp only [coerceInt, hread]

end Texts

theorem coerceInt_of_other {raw : Value} (hint : ∀ n, raw ≠ .scalar (.int n))
    (htext : ∀ t, raw ≠ .text t) : coerceInt raw = .error (.fault .notInt) := by
  rw [coerceInt.eq_def]
  split
  · next n => exact absurd rfl (hint n)
  · next t => exact absurd rfl (htext t)
  · rfl

theorem coerceInt_of_reading {raw : Value} {r : Except Refusal Value} (h : IntReading raw r) :
    coerceInt raw = r := by
  cases h with
  | integer hn => exact intInRange_of_is32Bit hn
  | outside hn => exact intInRange_of_not_is32Bit hn
  | numeral ht h hlength hn => rw [coerceInt_of_numeral ht h hlength, intInRange_of_is32Bit hn]
  | numeralOutside ht h hlength hn =>
    rw [coerceInt_of_numeral ht h hlength, intInRange_of_not_is32Bit hn]
  | overlong ht h hlength => exact coerceInt_of_overlong ht h hlength
  | noNumeral h => exact coerceInt_of_not_numeral h
  | other hint htext => exact coerceInt_of_other hint htext

/-- No raw value is left out. -/
theorem exists_reading (raw : Value) : ∃ r, IntReading raw r := by
  by_cases hint : ∃ n, raw = .scalar (.int n)
  · obtain ⟨n, rfl⟩ := hint
    by_cases hn : Is32Bit n
    · exact ⟨_, .integer hn⟩
    · exact ⟨_, .outside hn⟩
  by_cases htext : ∃ t, raw = .text t
  · obtain ⟨t, rfl⟩ := htext
    by_cases hnumeral : ∃ core digits n, Padded core t ∧ Numeral core digits n
    · obtain ⟨core, digits, n, ht, h⟩ := hnumeral
      by_cases hlength : digits.length ≤ 4300
      · by_cases hn : Is32Bit n
        · exact ⟨_, .numeral ht h hlength hn⟩
        · exact ⟨_, .numeralOutside ht h hlength hn⟩
      · exact ⟨_, .overlong ht h (Nat.lt_of_not_le hlength)⟩
    · exact ⟨_, .noNumeral fun core digits n ht h => hnumeral ⟨core, digits, n, ht, h⟩⟩
  · exact ⟨_, .other (not_exists.1 hint) (not_exists.1 htext)⟩

theorem coerceInt_eq_iff {raw : Value} {r : Except Refusal Value} :
    coerceInt raw = r ↔ IntReading raw r := by
  constructor
  · intro h
    obtain ⟨r', h'⟩ := exists_reading raw
    rwa [← h, coerceInt_of_reading h']
  · exact coerceInt_of_reading

/-- **The values of an INT setting are the integers of 32 bits, in plain decimal.** Coercion
does with every raw value what `IntReading` says and nothing else, and an integer is read back
whatever zeros, fitting sign and white space it is written with. -/
theorem coerceInt_exact :
    (∀ raw r, coerceInt raw = r ↔ IntReading raw r) ∧
      ∀ (n : Int) (sign : Text) (zeros : Nat) (before after : Text), Is32Bit n → SignOf sign n →
        zeros + (decimal n.natAbs).length ≤ 4300 → IsMargin before → IsMargin after →
        coerceInt (.text (before ++ (sign ++ (List.replicate zeros '0' ++ decimal n.natAbs))
          ++ after)) = .ok (.scalar (.int n)) := by
  refine ⟨fun raw r => coerceInt_eq_iff, fun n sign zeros before after hn hsign hlength hb ha => ?_⟩
  have hdigits : (List.replicate zeros '0' ++ decimal n.natAbs).length ≤ maxDigits := by
    rw [List.length_append, List.length_replicate]
    exact hlength
  rw [coerceInt_of_numeral ⟨before, after, rfl, hb, ha⟩ (numeral_zeros hsign zeros) hdigits,
    intInRange_of_is32Bit hn]

/-- The least value with two zeros and spaces of three kinds around it, and one digit too many. -/
theorem coerceInt_exact_least :
    coerceInt (.text "\u3000\t-002147483648\u00a0".toList) = .ok (.scalar (.int (-2147483648))) ∧
      coerceInt (.text (List.replicate 4301 '0')) = .error (.halt (.digits (.reading 4301))) := by
  have hdecimal : decimal (-2147483648 : Int).natAbs = "2147483648".toList := by decide +kernel
  have hleast := coerceInt_exact.2 (-2147483648) ['-'] 2 ['\u3000', '\t'] ['\u00a0'] (by decide)
    (.minus (by decide)) (by rw [hdecimal]; decide) (List.all_eq_true.1 (by decide))
    (List.all_eq_true.1 (by decide))
  rw [hdecimal] at hleast
  refine ⟨hleast, ?_⟩
  have hdigits : IsDigits (List.replicate 4301 '0') := isDigits_replicate (by decide)
  have hlength : (List.replicate 4301 '0').length = 4301 := List.length_replicate
  have hreading := IntReading.overlong (padded_self _) (.bare hdigits) (by rw [hlength]; decide)
  rw [hlength] at hreading
  exact (coerceInt_exact.1 _ _).2 hreading

end TopicTables
