import TopicTables.Number.Notation
import TopicTables.Calendar
import TopicTables.Proofs.Number.Numeral

/-! Digits that are broken off.

The text of a floating-point number has a point or an exponent behind its first digits
(`broken_magnitude`), and that of a date a stroke, so that none of them is a numeral.
`Broken` says where the digits of such a text end. -/
namespace TopicTables

/-- Digits, and behind them the letter of an exponent or, if there are any, a mark. -/
inductive Broken : Text → Prop where
  | mark {digits rest : Text} {c : Char} : IsDigits digits → c ∈ ['.', '-'] →
      Broken (digits ++ c :: rest)
  | exponent {digits rest : Text} : (∀ c ∈ digits, isDigit c = true) →
      Broken (digits ++ 'e' :: rest)

theorem isDigits_decimalPadded (width n : Nat) : IsDigits (decimalPadded width n) :=
  (isDigits_decimal n).zeros _

theorem Broken.append {t : Text} (h : Broken t) (u : Text) : Broken (t ++ u) := by
  cases h with
  | mark hdigits hc =>
    rw [List.append_assoc, List.cons_append]
    exact .mark hdigits hc
  | exponent hdigits =>
    rw [List.append_assoc, List.cons_append]
    exact .exponent hdigits

/-! ### Floating-point numbers -/

namespace Layout
variable {digits : Text}

theorem broken_positional (h : ∀ c ∈ digits, isDigit c = true) (whole : Int) :
    Broken (positional digits whole) := by
  rw [positional]
  split
  · exact .mark (isDigits_replicate Nat.one_ne_zero) (by decide)
  · next hpositive =>
    split
    · refine .mark ⟨fun hnil => ?_, List.forall_mem_append.2
        ⟨h, fun _ => isDigit_of_mem_replicate⟩⟩ (by decide)
      have hlength := congrArg List.length hnil
      simp only [List.length_append, List.length_replicate, List.length_nil] at hlength
      omega
    · next hlong =>
      refine .mark ⟨fun hnil => ?_, fun c hc => h c (List.mem_of_mem_take hc)⟩ (by decide)
      have hlength := congrArg List.length hnil
      rw [List.length_take, List.length_nil] at hlength
      omega

theorem broken_scientific (h : ∀ c ∈ digits, isDigit c = true) (layout : Layout) (exponent : Int) :
    Broken (layout.scientific digits exponent) := by
  have hfirst : ∀ c ∈ digits.take 1, isDigit c = true := fun c hc => h c (List.mem_of_mem_take hc)
  rw [scientific]
  split
  · next hlong =>
    apply Broken.append
    refine .mark ⟨fun hnil => ?_, hfirst⟩ (by decide)
    have hlength := congrArg List.length hnil
    rw [List.length_take, List.length_nil] at hlength
    omega
  · rw [List.append_nil]
    exact .exponent hfirst

/-- **A number that is not negative has a point or an exponent behind its first digits.** -/
theorem broken_magnitude (layout : Layout) (mantissa : Nat) (exponent : Int) :
    Broken (layout.magnitude mantissa exponent) := by
  rw [magnitude]
  split
  · exact .mark (isDigits_replicate Nat.one_ne_zero) (by decide)
  · generalize Shortest.select mantissa exponent = d
    have hdigits : ∀ c ∈ ((decimal d.digits).reverse.dropWhile (· = '0')).reverse,
        isDigit c = true := fun c hc =>
      (isDigits_decimal d.digits).digit c
        (List.mem_reverse.1 ((List.dropWhile_subset _) (List.mem_reverse.1 hc)))
    rw [ofDecimal]
    split
    · exact broken_positional hdigits _
    · exact broken_scientific hdigits layout _

end Layout

/-! ### Dates -/

theorem Date.broken_text (d : Date) : Broken d.text := by
  rw [Date.text]
  apply Broken.append
  exact .mark (isDigits_decimalPadded 4 d.year) (by decide)

theorem Timestamp.broken_text (t : Timestamp) : Broken t.text := by
  rw [Timestamp.text]
  exact ((((t.date.broken_text.append _).append _).append _).append _).append _

end TopicTables
