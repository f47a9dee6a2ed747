import TopicTables.Setting.Schema
import TopicTables.Proofs.Value.Digits

/-! Verdicts on settings.

A raw value is read as a value of its setting's type or refused with a fault. There is no
verdict on a value only where its digits are too many: an integer in it cannot be written,
or it is the text of an INT setting and cannot be read (`Definition.verdict_isOk_iff`). -/
namespace TopicTables

/-- The text is an optional sign and more digits than can be read. -/
def isOverlong (t : Text) : Bool :=
  (splitSign (strip t)).2.all isDigit && decide (maxDigits < (splitSign (strip t)).2.length)

theorem readInteger?_eq_error {t : Text} {limit : DigitLimit}
    (h : readInteger? (strip t) = some (.error limit)) : isOverlong t = true := by
  simp only [readInteger?] at h
  split at h
  · next hdigits =>
    rw [Option.some_inj, readDigits] at h
    split at h
    · cases h
    · next hlength => simp [isOverlong, hdigits.2, Nat.lt_of_not_le hlength]
  · cases h

theorem readInteger?_of_isOverlong {t : Text} (h : isOverlong t = true) :
    readInteger? (strip t) = some (.error (.reading (splitSign (strip t)).2.length)) := by
  rw [isOverlong, Bool.and_eq_true, decide_eq_true_iff] at h
  obtain ⟨hdigits, hlength⟩ := h
  have hne : (splitSign (strip t)).2 ≠ [] := List.ne_nil_of_length_pos (by omega)
  simp only [readInteger?]
  rw [if_pos ⟨hne, hdigits⟩, readDigits, if_neg (by omega)]
  rfl

/-! ### Values of a type -/

/-- The value is one that a setting of the type can have. -/
def SettingType.Holds : SettingType → Value → Prop
  | .string, v => ∃ t, v = .text t
  | .boolean, v => ∃ b, v = .scalar (.bool b)
  | .int, v => ∃ n, v = .scalar (.int n) ∧ minInt ≤ n ∧ n ≤ maxInt

theorem isWritable_of_inRange {n : Int} (hmin : minInt ≤ n) (hmax : n ≤ maxInt) :
    isWritable n = true := by
  have hsmall : n.natAbs < 10 ^ 10 := by
    simp only [minInt, maxInt] at hmin hmax
    omega
  have hlength : (decimal n.natAbs).length ≤ 10 :=
    (Nat.length_toDigits_le_iff (by decide) (by decide)).2 hsmall
  rw [isWritable, decide_eq_true_iff, maxDigits]
  omega

theorem intInRange_eq_ok {n : Int} {v : Value} (h : intInRange n = .ok v) :
    v = .scalar (.int n) ∧ minInt ≤ n ∧ n ≤ maxInt := by
  rw [intInRange] at h
  split at h
  · next hrange =>
    cases h
    exact ⟨rfl, hrange⟩
  · cases h

theorem intInRange_ne_halt (n : Int) (halt : Halt) : intInRange n ≠ .error (.halt halt) := by
  rw [intInRange]
  split <;> simp

/-- An accepted value has the type of its setting, and the raw value can be shown. -/
theorem SettingType.holds_of_coerce {τ : SettingType} {raw v : Value}
    (h : τ.coerce raw = .ok v) : τ.Holds v ∧ raw.integers.all isWritable = true := by
  cases τ with
  | string =>
    rw [coerce, coerceString.eq_def] at h
    split at h
    · cases h
      exact ⟨⟨_, rfl⟩, rfl⟩
    · cases h
  | boolean =>
    rw [coerce, coerceBoolean.eq_def] at h
    split at h
    · cases h
      exact ⟨⟨_, rfl⟩, rfl⟩
    · split at h
      · cases h
        exact ⟨⟨_, rfl⟩, rfl⟩
      · split at h
        · cases h
          exact ⟨⟨_, rfl⟩, rfl⟩
        · cases h
    · cases h
  | int =>
    rw [coerce, coerceInt.eq_def] at h
    split at h
    · next n =>
      obtain ⟨rfl, hrange⟩ := intInRange_eq_ok h
      refine ⟨⟨n, rfl, hrange⟩, ?_⟩
      simp [Value.integers, Scalar.integers, isWritable_of_inRange hrange.1 hrange.2]
    · split at h
      · obtain ⟨rfl, hrange⟩ := intInRange_eq_ok h
        exact ⟨⟨_, rfl, hrange⟩, rfl⟩
      · cases h
      · cases h
    · cases h

/-- The text that a value is, if it is one. -/
def Value.text? : Value → Option Text
  | .scalar (.text t) => some t
  | _ => none

theorem Value.text?_eq_some_iff {v : Value} {t : Text} : v.text? = some t ↔ v = .text t := by
  constructor
  · intro h
    rw [text?.eq_def] at h
    split at h <;> cases h
    rfl
  · intro h
    rw [h, text?]

/-- Texts, and nothing else, are coerced to STRING, without the white space at their ends. -/
theorem coerceString_eq_ok_iff {raw v : Value} :
    coerceString raw = .ok v ↔ ∃ t, raw.text? = some t ∧ v = .text (strip t) := by
  rw [coerceString.eq_def]
  split
  · next t => simp [Value.text?, eq_comm]
  · next hnot =>
    have hnone : raw.text? = none := by
      rw [Option.eq_none_iff_forall_ne_some]
      intro t ht
      exact hnot t (Value.text?_eq_some_iff.1 ht)
    simp [hnone]

/-- The raw value is the text of an INT setting and has too many digits to be read. -/
def SettingType.Unreadable (τ : SettingType) (raw : Value) : Prop :=
  τ = .int ∧ ∃ t ∈ raw.text?, isOverlong t = true

instance (τ : SettingType) (raw : Value) : Decidable (τ.Unreadable raw) :=
  inferInstanceAs (Decidable (_ ∧ _))

theorem SettingType.coerce_eq_halt {τ : SettingType} {raw : Value} {halt : Halt}
    (h : τ.coerce raw = .error (.halt halt)) :
    τ.Unreadable raw ∧ ∃ limit, halt = .digits limit := by
  cases τ with
  | string =>
    rw [coerce, coerceString.eq_def] at h
    split at h <;> cases h
  | boolean =>
    rw [coerce, coerceBoolean.eq_def] at h
    repeat' split at h
    all_goals cases h
  | int =>
    rw [coerce, coerceInt.eq_def] at h
    split at h
    · exact absurd h (intInRange_ne_halt _ _)
    · next t =>
      split at h
      · exact absurd h (intInRange_ne_halt _ _)
      · next limit hread =>
        cases h
        exact ⟨⟨rfl, t, rfl, readInteger?_eq_error hread⟩, limit, rfl⟩
      · cases h
    · cases h

theorem SettingType.coerce_of_unreadable {τ : SettingType} {raw : Value}
    (h : τ.Unreadable raw) : ∃ limit, τ.coerce raw = .error (.halt (.digits limit)) := by
  obtain ⟨rfl, t, ht, hlong⟩ := h
  obtain rfl := Value.text?_eq_some_iff.1 ht
  refine ⟨.reading (splitSign (strip t)).2.length, ?_⟩
  simp only [coerce, coerceInt, readInteger?_of_isOverlong hlong]

/-! ### Reading a setting -/

namespace Definition
variable {d : Definition}

theorem checkAtLeast_ne_halt {τ : SettingType} {v : Value} (hτ : τ ≠ .string) (hv : τ.Holds v)
    (minimum : Int) (halt : Halt) : checkAtLeast minimum v ≠ .error (.halt halt) := by
  cases τ with
  | string => exact absurd rfl hτ
  | boolean =>
    obtain ⟨b, rfl⟩ := hv
    simp only [checkAtLeast, Scalar.asInteger?]
    generalize (if b = true then (1 : Int) else 0) = n
    split <;> simp
  | int =>
    obtain ⟨n, rfl, -⟩ := hv
    simp only [checkAtLeast, Scalar.asInteger?]
    split <;> simp

theorem checkAtLeast_int (minimum n : Int) : checkAtLeast minimum (.scalar (.int n)) =
    if n < minimum then .error (.fault (.below minimum)) else .ok () := rfl

/-- Checking a value of the type does not end a run. -/
def Ordered (d : Definition) : Prop :=
  ∀ v, d.type.Holds v → ∀ halt, d.validate v ≠ .error (.halt halt)

theorem read_of_coerce_error {raw : Value} {refusal : Refusal}
    (h : d.type.coerce raw = .error refusal) : d.read raw = .error refusal := by
  rw [read, h]
  rfl

theorem read_of_coerce_ok {raw v : Value} (h : d.type.coerce raw = .ok v) :
    d.read raw = (d.validate v).map fun _ => v := by
  rw [read, h]
  show (d.validate v >>= fun _ => pure v) = (d.validate v).map fun _ => v
  cases d.validate v <;> rfl

/-- A raw value is read as what it is coerced to, if that passes the checks. -/
theorem read_eq_ok_iff {raw v : Value} :
    d.read raw = .ok v ↔ d.type.coerce raw = .ok v ∧ d.validate v = .ok () := by
  cases hcoerce : d.type.coerce raw with
  | error refusal => simp [read_of_coerce_error hcoerce]
  | ok w =>
    rw [read_of_coerce_ok hcoerce, Except.ok.injEq]
    constructor
    · intro h
      obtain ⟨_, hvalid, rfl⟩ := map_eq_ok h
      exact ⟨rfl, hvalid⟩
    · intro h
      obtain ⟨rfl, hvalid⟩ := h
      rw [hvalid]
      rfl

theorem read_eq_error_iff {raw : Value} {refusal : Refusal} :
    d.read raw = .error refusal ↔ d.type.coerce raw = .error refusal ∨
      ∃ v, d.type.coerce raw = .ok v ∧ d.validate v = .error refusal := by
  cases hcoerce : d.type.coerce raw with
  | error refusal' => simp [read_of_coerce_error hcoerce]
  | ok v =>
    rw [read_of_coerce_ok hcoerce]
    cases hvalid : d.validate v <;> simp [Except.map, hvalid]

theorem holds_of_read {raw v : Value} (h : d.read raw = .ok v) :
    d.type.Holds v ∧ raw.integers.all isWritable = true :=
  SettingType.holds_of_coerce (read_eq_ok_iff.1 h).1

theorem read_eq_halt (hd : d.Ordered) {raw : Value} {halt : Halt}
    (h : d.read raw = .error (.halt halt)) :
    d.type.Unreadable raw ∧ ∃ limit, halt = .digits limit := by
  rcases read_eq_error_iff.1 h with hcoerce | ⟨v, hcoerce, hvalid⟩
  · exact SettingType.coerce_eq_halt hcoerce
  · exact absurd hvalid (hd v (SettingType.holds_of_coerce hcoerce).1 halt)

theorem read_of_unreadable {raw : Value} (h : d.type.Unreadable raw) :
    ∃ limit, d.read raw = .error (.halt (.digits limit)) := by
  obtain ⟨limit, hcoerce⟩ := SettingType.coerce_of_unreadable h
  exact ⟨limit, read_of_coerce_error hcoerce⟩

/-! ### The verdict -/

/-- The raw value has too many digits to be looked at: in an integer that stands in it, or
in the text of an INT setting. -/
def Exceeds (d : Definition) (raw : Value) : Prop :=
  (∃ n ∈ raw.integers, isWritable n = false) ∨ d.type.Unreadable raw

instance (d : Definition) (raw : Value) : Decidable (d.Exceeds raw) :=
  inferInstanceAs (Decidable (_ ∨ _))

theorem integers_of_not_exceeds {raw : Value} (h : ¬ d.Exceeds raw) :
    raw.integers.all isWritable = true := by
  rw [List.all_eq_true]
  intro n hn
  cases hlong : isWritable n with
  | true => rfl
  | false => exact absurd (.inl ⟨n, hn, hlong⟩) h

/-- What is said of a raw value. -/
def judge (d : Definition) (raw : Value) : Except Halt Verdict :=
  match d.read raw with
  | .ok value => .ok (.accepted value)
  | .error (.fault fault) => match raw.echo with
    | .ok shown => .ok (.refused ⟨d.name, some shown, .fault fault⟩)
    | .error limit => .error (.digits limit)
  | .error (.halt halt) => .error halt

/-- What is said of a setting that is not there. -/
def fallback (d : Definition) : Verdict :=
  match d.default with
  | some value => .accepted value
  | none => .refused ⟨d.name, none, .missing d.name⟩

/-- A verdict looks at nothing but the name of the definition. -/
theorem verdict_congr {bag bag' : Bag} (h : bag.get? d.name = bag'.get? d.name) :
    d.verdict bag = d.verdict bag' := by
  rw [verdict, verdict, h]

theorem verdict_eq (d : Definition) (bag : Bag) :
    d.verdict bag = ((bag.get? d.name).map d.judge).getD (.ok d.fallback) := by
  rw [verdict, fallback]
  cases bag.get? d.name with
  | none => cases d.default <;> rfl
  | some raw => rfl

theorem judge_isOk_of_not_exceeds (hd : d.Ordered) {raw : Value} (h : ¬ d.Exceeds raw) :
    (d.judge raw).isOk = true := by
  rw [judge]
  cases hread : d.read raw with
  | ok v => rfl
  | error refusal =>
    cases refusal with
    | fault fault =>
      have hshown : raw.echo.isOk = true := by
        rw [Value.echo_isOk]
        exact integers_of_not_exceeds h
      cases hecho : raw.echo with
      | ok shown => rfl
      | error limit =>
        rw [hecho] at hshown
        cases hshown
    | halt halt => exact absurd (.inr (read_eq_halt hd hread).1) h

/-- A value with an integer that cannot be written is not accepted, and its refusal cannot
be shown. -/
theorem judge_of_exceeds {raw : Value} (h : d.Exceeds raw) :
    ∃ halt, d.judge raw = .error halt := by
  rw [judge]
  rcases h with ⟨n, hn, hlong⟩ | hunreadable
  · have hsome : raw.integers.all isWritable = false :=
      List.all_eq_false.2 ⟨n, hn, by simp [hlong]⟩
    cases hread : d.read raw with
    | ok v =>
      rw [(holds_of_read hread).2] at hsome
      cases hsome
    | error refusal =>
      cases refusal with
      | fault fault =>
        have hshown : raw.echo.isOk = false := (Value.echo_isOk raw).trans hsome
        cases hecho : raw.echo with
        | ok shown =>
          rw [hecho] at hshown
          cases hshown
        | error limit => exact ⟨.digits limit, rfl⟩
      | halt halt => exact ⟨halt, rfl⟩
  · -- The text itself could be shown, but reading it does not end in a fault.
    obtain ⟨limit, hread⟩ := read_of_unreadable hunreadable
    rw [hread]
    exact ⟨.digits limit, rfl⟩

theorem judge_eq_error (hd : d.Ordered) {raw : Value} {halt : Halt}
    (h : d.judge raw = .error halt) : ∃ limit, halt = .digits limit := by
  rw [judge] at h
  split at h
  · cases h
  · split at h
    · cases h
    · cases h
      exact ⟨_, rfl⟩
  · next hread =>
    cases h
    exact (read_eq_halt hd hread).2

/-- The bag has a value of the setting that has too many digits to be looked at. -/
def ExceededIn (d : Definition) (bag : Bag) : Prop :=
  ∃ raw ∈ bag.get? d.name, d.Exceeds raw

instance (d : Definition) (bag : Bag) : Decidable (d.ExceededIn bag) :=
  inferInstanceAs (Decidable (∃ raw ∈ bag.get? d.name, d.Exceeds raw))

/-- **There is no verdict only on a value that has too many digits.** -/
theorem verdict_isOk_iff (hd : d.Ordered) (bag : Bag) :
    (d.verdict bag).isOk = true ↔ ¬ d.ExceededIn bag := by
  rw [verdict_eq]
  constructor
  · intro hok hexceeded
    obtain ⟨raw, hraw, h⟩ := hexceeded
    obtain ⟨halt, hjudge⟩ := judge_of_exceeds h
    rw [Option.mem_def.1 hraw, Option.map_some, Option.getD_some, hjudge] at hok
    cases hok
  · intro h
    cases hraw : bag.get? d.name with
    | none => rfl
    | some raw => exact judge_isOk_of_not_exceeds hd fun hexceeds => h ⟨raw, hraw, hexceeds⟩

theorem verdict_eq_error (hd : d.Ordered) {bag : Bag} {halt : Halt}
    (h : d.verdict bag = .error halt) : ∃ limit, halt = .digits limit := by
  rw [verdict_eq] at h
  cases hraw : bag.get? d.name with
  | none =>
    rw [hraw] at h
    cases h
  | some raw =>
    rw [hraw] at h
    exact judge_eq_error hd h

/-! ### Every verdict -/

/-- What is said of a setting, told by what the bag has under its name. -/
inductive Says (d : Definition) (bag : Bag) : Verdict → Prop where
  | missing : bag.get? d.name = none → d.default = none →
      Says d bag (.refused ⟨d.name, none, .missing d.name⟩)
  | default {v : Value} : bag.get? d.name = none → d.default = some v → Says d bag (.accepted v)
  | accepted {raw v : Value} : bag.get? d.name = some raw → d.read raw = .ok v →
      Says d bag (.accepted v)
  | refused {raw : Value} {fault : SettingFault} {shown : Text} : bag.get? d.name = some raw →
      d.read raw = .error (.fault fault) → raw.echo = .ok shown →
      Says d bag (.refused ⟨d.name, some shown, .fault fault⟩)

theorem says_of_judge {bag : Bag} {raw : Value} (hraw : bag.get? d.name = some raw)
    {verdict : Verdict} (h : d.judge raw = .ok verdict) : d.Says bag verdict := by
  rw [judge] at h
  split at h
  · next hread =>
    cases h
    exact .accepted hraw hread
  · next hread =>
    split at h
    · next hshown =>
      cases h
      exact .refused hraw hread hshown
    · cases h
  · cases h

/-- **A verdict is one of four**, by whether the setting is there and can be read. -/
theorem verdict_eq_ok_iff {bag : Bag} {verdict : Verdict} :
    d.verdict bag = .ok verdict ↔ d.Says bag verdict := by
  rw [verdict_eq]
  constructor
  · intro h
    cases hraw : bag.get? d.name with
    | none =>
      rw [hraw] at h
      cases h
      rw [fallback]
      cases hdefault : d.default with
      | none => exact .missing hraw hdefault
      | some v => exact .default hraw hdefault
    | some raw =>
      rw [hraw] at h
      exact says_of_judge hraw h
  · intro h
    cases h with
    | missing hraw hdefault => simp [hraw, fallback, hdefault]
    | default hraw hdefault => simp [hraw, fallback, hdefault]
    | accepted hraw hread => simp [hraw, judge, hread]
    | refused hraw hread hshown => simp [hraw, judge, hread, hshown]

/-- An accepted value has the type of its setting, if its default has. -/
theorem holds_of_verdict (hdefault : ∀ v, d.default = some v → d.type.Holds v) {bag : Bag}
    {v : Value} (h : d.verdict bag = .ok (.accepted v)) : d.type.Holds v := by
  cases verdict_eq_ok_iff.1 h with
  | default _ hd => exact hdefault v hd
  | accepted _ hread => exact (holds_of_read hread).1

/-- A violation is found under the name of the definition. -/
theorem path_of_verdict {bag : Bag} {violation : Violation}
    (h : d.verdict bag = .ok (.refused violation)) : violation.path = d.name := by
  cases verdict_eq_ok_iff.1 h <;> rfl

end Definition
end TopicTables
