import TopicTables.Number.Integer
import TopicTables.Proofs.Text.Margin
import Mathlib.Data.Nat.Digits.Defs

/-! Numerals: how integers are written in plain decimal.

A numeral is an optional sign and one or more ASCII digits, and it denotes what its digits
denote by their places. Exactly the numerals are read as integers, each as the one integer
that it denotes (`readInteger?_eq_some_iff`); the plain text of an integer is one of its
numerals, also with zeros in front of its digits (`numeral_zeros`). -/
namespace TopicTables

/-! ### Digits and their places -/

/-- One or more ASCII digits. -/
structure IsDigits (t : Text) : Prop where
  ne_nil : t ≠ []
  digit : ∀ c ∈ t, isDigit c = true

theorem isDigit_of_mem_replicate {n : Nat} {c : Char} (h : c ∈ List.replicate n '0') :
    isDigit c = true := by
  rw [List.eq_of_mem_replicate h]
  decide

theorem isDigits_replicate {n : Nat} (h : n ≠ 0) : IsDigits (List.replicate n '0') :=
  ⟨fun hnil => h ((List.replicate_eq_nil_iff '0').1 hnil), fun _ => isDigit_of_mem_replicate⟩

/-- Zeros in front of digits are digits. -/
theorem IsDigits.zeros {t : Text} (h : IsDigits t) (n : Nat) :
    IsDigits (List.replicate n '0' ++ t) :=
  ⟨List.append_ne_nil_of_right_ne_nil _ h.ne_nil,
    List.forall_mem_append.2 ⟨fun _ => isDigit_of_mem_replicate, h.digit⟩⟩

/-- The number that a digit stands for. -/
def digitValue (c : Char) : Nat := c.toNat - '0'.toNat

/-- What digits denote by their places, of which the last one counts ones. -/
def placeValue (digits : Text) : Nat := Nat.ofDigits 10 (digits.reverse.map digitValue)

/-- Digits are read from the left, which comes to the same. -/
theorem ofDecimal_eq_placeValue (digits : Text) : ofDecimal digits = placeValue digits := by
  induction digits using List.reverseRecOn with
  | nil => rfl
  | append_singleton digits c ih =>
    have hlast : ofDecimal (digits ++ [c]) = 10 * ofDecimal digits + digitValue c := by
      rw [ofDecimal, Nat.ofDigitChars_append, Nat.ofDigitChars_cons, Nat.ofDigitChars_nil]
      rfl
    rw [hlast, ih, placeValue, placeValue, List.reverse_concat, List.map_cons, Nat.ofDigits_cons,
      Nat.add_comm]

theorem isDigit_iff {c : Char} : isDigit c = true ↔ 48 ≤ c.toNat ∧ c.toNat ≤ 57 := by
  simp [isDigit, Char.le_def, UInt32.le_iff_toNat_le]

theorem not_isBlank_of_isDigit {c : Char} (h : isDigit c = true) : isBlank c = false := by
  have hrange := isDigit_iff.1 h
  have hapart : ∀ r ∈ blankRanges, r.2 < 48 ∨ 57 < r.1 := by decide
  rw [Bool.eq_false_iff, isBlank, Ne, inRanges_iff]
  intro hblank
  obtain ⟨r, hr, hlow, hhigh⟩ := hblank
  rcases hapart r hr with h | h <;> omega

/-! ### Numerals -/

/-- The text is written with those digits and denotes the integer. -/
inductive Numeral : Text → Text → Int → Prop where
  | bare {digits : Text} : IsDigits digits → Numeral digits digits (placeValue digits)
  | plus {digits : Text} : IsDigits digits → Numeral ('+' :: digits) digits (placeValue digits)
  | minus {digits : Text} : IsDigits digits → Numeral ('-' :: digits) digits (-placeValue digits)

theorem splitSign_of_head {t : Text} (hplus : t.head? ≠ some '+') (hminus : t.head? ≠ some '-') :
    splitSign t = (false, t) := by
  rw [splitSign.eq_def]
  split
  · exact absurd rfl hminus
  · exact absurd rfl hplus
  · rfl

theorem IsDigits.splitSign_eq {t : Text} (h : IsDigits t) : splitSign t = (false, t) := by
  have hhead : ∀ c, isDigit c = false → t.head? ≠ some c := by
    intro c hc hmem
    rw [h.digit c (List.mem_of_mem_head? hmem)] at hc
    cases hc
  exact splitSign_of_head (hhead '+' (by decide)) (hhead '-' (by decide))

/-- A numeral is told by its sign and what stands behind it. -/
theorem numeral_iff {t digits : Text} {n : Int} : Numeral t digits n ↔
    IsDigits digits ∧ (splitSign t).2 = digits ∧
      n = signed (splitSign t).1 (placeValue digits) := by
  constructor
  · intro h
    cases h with
    | bare hdigits =>
      rw [hdigits.splitSign_eq]
      exact ⟨hdigits, rfl, rfl⟩
    | plus hdigits => exact ⟨hdigits, rfl, rfl⟩
    | minus hdigits => exact ⟨hdigits, rfl, rfl⟩
  · intro h
    obtain ⟨hdigits, rfl, rfl⟩ := h
    revert hdigits
    rw [splitSign.eq_def]
    split
    · exact fun hdigits => .minus hdigits
    · exact fun hdigits => .plus hdigits
    · exact fun hdigits => .bare hdigits

/-- There is no white space in a numeral. -/
theorem Numeral.trimmed {t digits : Text} {n : Int} (h : Numeral t digits n) : Trimmed t := by
  have hdigits : ∀ {ds : Text}, IsDigits ds → ∀ c ∈ ds, isBlank c = false :=
    fun hds c hc => not_isBlank_of_isDigit (hds.digit c hc)
  apply trimmed_of_forall
  cases h with
  | bare hds => exact hdigits hds
  | plus hds => exact List.forall_mem_cons.2 ⟨by decide, hdigits hds⟩
  | minus hds => exact List.forall_mem_cons.2 ⟨by decide, hdigits hds⟩

/-! ### Reading and writing -/

/-- What reading a numeral comes to: the integer, unless it has too many digits. -/
def readAs (digits : Text) (n : Int) : Except DigitLimit Int :=
  if digits.length ≤ maxDigits then .ok n else .error (.reading digits.length)

/-- **Numerals are read as what they denote, and nothing else is read.** -/
theorem readInteger?_eq_some_iff {t : Text} {r : Except DigitLimit Int} :
    readInteger? t = some r ↔ ∃ digits n, Numeral t digits n ∧ r = readAs digits n := by
  have hread : ∀ negative digits,
      (readDigits digits).map (signed negative) =
        readAs digits (signed negative (placeValue digits)) := by
    intro negative digits
    rw [readDigits, readAs, ofDecimal_eq_placeValue]
    split <;> rfl
  simp only [readInteger?, numeral_iff, hread]
  constructor
  · intro h
    split at h
    · next hdigits =>
      exact ⟨_, _, ⟨⟨hdigits.1, List.all_eq_true.1 hdigits.2⟩, rfl, rfl⟩, (Option.some.inj h).symm⟩
    · cases h
  · intro h
    obtain ⟨digits, n, ⟨hdigits, rfl, rfl⟩, rfl⟩ := h
    rw [if_pos ⟨hdigits.ne_nil, List.all_eq_true.2 hdigits.digit⟩]

theorem readInteger?_of_numeral {t digits : Text} {n : Int} (h : Numeral t digits n) :
    readInteger? t = some (readAs digits n) :=
  readInteger?_eq_some_iff.2 ⟨digits, n, h, rfl⟩

theorem readInteger?_eq_none_iff {t : Text} :
    readInteger? t = none ↔ ∀ digits n, ¬ Numeral t digits n := by
  rw [Option.eq_none_iff_forall_ne_some]
  constructor
  · intro h digits n hnumeral
    exact h _ (readInteger?_of_numeral hnumeral)
  · intro h r hr
    obtain ⟨digits, n, hnumeral, -⟩ := readInteger?_eq_some_iff.1 hr
    exact h digits n hnumeral

/-- The sign may stand in front of the digits of the integer. -/
inductive SignOf : Text → Int → Prop where
  | none {n : Int} : 0 ≤ n → SignOf [] n
  | plus {n : Int} : 0 ≤ n → SignOf ['+'] n
  | minus {n : Int} : n ≤ 0 → SignOf ['-'] n

theorem isDigits_decimal (n : Nat) : IsDigits (decimal n) := by
  refine ⟨Nat.toDigits_ne_nil, fun c hc => ?_⟩
  have hdigit := Nat.isDigit_of_mem_toDigits (by decide) (by decide) hc
  simpa [isDigit, Char.isDigit, Char.le_def] using hdigit

/-- **With a sign that fits and any zeros in front, the digits of an integer denote it.** -/
theorem numeral_zeros {sign : Text} {n : Int} (h : SignOf sign n) (zeros : Nat) :
    Numeral (sign ++ (List.replicate zeros '0' ++ decimal n.natAbs))
      (List.replicate zeros '0' ++ decimal n.natAbs) n := by
  have hdigits := (isDigits_decimal n.natAbs).zeros zeros
  have hvalue : placeValue (List.replicate zeros '0' ++ decimal n.natAbs) = n.natAbs := by
    rw [← ofDecimal_eq_placeValue, ofDecimal, Nat.ofDigitChars_append,
      Nat.ofDigitChars_replicate_zero, Nat.mul_zero]
    exact ofDecimal_decimal n.natAbs
  cases h with
  | none hn =>
    have hnumeral := Numeral.bare hdigits
    rwa [hvalue, Int.natAbs_of_nonneg hn] at hnumeral
  | plus hn =>
    have hnumeral := Numeral.plus hdigits
    rwa [hvalue, Int.natAbs_of_nonneg hn] at hnumeral
  | minus hn =>
    have hnumeral := Numeral.minus hdigits
    rwa [hvalue, Int.ofNat_natAbs_of_nonpos hn, neg_neg] at hnumeral

/-- The text that is written for an integer is one of its numerals. -/
theorem numeral_signedDecimal (n : Int) : Numeral (signedDecimal n) (decimal n.natAbs) n := by
  cases n with
  | ofNat m => exact numeral_zeros (.none (Int.natCast_nonneg m)) 0
  | negSucc m => exact numeral_zeros (.minus (Int.negSucc_lt_zero m).le) 0

end TopicTables
