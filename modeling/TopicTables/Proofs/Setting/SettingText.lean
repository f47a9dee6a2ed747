import TopicTables.Setting.Table
import TopicTables.Proofs.Number.Notation
import TopicTables.Proofs.Setting.Integer

/-! Settings given as texts.

A bag that was loaded from a file holds texts, and a setting of type BOOLEAN or INT means the
same there as in a typed bag (`read_settingText`). Integers and booleans come back from their
texts. The text of any other value is *foreign*: its first character, or a stray one behind
it, keeps it from being a word for a boolean or a numeral. -/
namespace TopicTables

/-! ### Foreign texts -/

/-- The character starts no word for a boolean. -/
def startsNoWord (c : Char) : Bool :=
  c.toNat < 128 && !isBlank c && c.toLower != 't' && c.toLower != 'f'

/-- The character starts no numeral. -/
def startsNoNumeral (c : Char) : Bool := !isBlank c && !isDigit c && c != '+' && c != '-'

/-- The character stands neither in a numeral, behind its start, nor in white space. -/
def isStray (c : Char) : Bool := !isBlank c && !isDigit c

/-- Neither a word for a boolean nor a numeral, whatever white space stands behind it. -/
inductive Foreign : Text → Prop where
  | start {c : Char} {t : Text} : startsNoWord c = true → startsNoNumeral c = true →
      Foreign (c :: t)
  | stray {c d : Char} {t : Text} : startsNoWord c = true → d ∈ t → isStray d = true →
      Foreign (c :: t)

theorem startsNoWord_of_isDigit {c : Char} (h : isDigit c = true) : startsNoWord c = true := by
  have hascii : c.toNat < 128 := Nat.lt_of_le_of_lt (isDigit_iff.1 h).2 (by decide)
  have hall : ∀ n < 128, isDigit (Char.ofNat n) = true → startsNoWord (Char.ofNat n) = true := by
    decide +kernel
  have hc := hall c.toNat hascii
  rw [Char.ofNat_toNat] at hc
  exact hc h

/-- White space before its end does not make a text a word that it does not start. -/
theorem coerceBoolean_of_start {c : Char} (hc : startsNoWord c = true) (t : Text) :
    coerceBoolean (.text (c :: t)) = .error (.fault .notBoolean) := by
  simp only [startsNoWord, Bool.and_eq_true, decide_eq_true_eq, Bool.not_eq_true', bne_iff_ne] at hc
  obtain ⟨⟨⟨hascii, hblank⟩, ht⟩, hf⟩ := hc
  have hsigma : c ≠ 'Σ' := by
    rintro rfl
    exact absurd hascii (by decide)
  have hlower : ∃ rest, lower (strip (c :: t)) = c.toLower :: rest := by
    rw [strip_cons hblank, lower, lowerAfter, if_neg hsigma, lowerOf, if_pos hascii]
    exact ⟨_, rfl⟩
  obtain ⟨rest, hrest⟩ := hlower
  have htrue : lower (strip (c :: t)) ≠ "true".toList := fun h =>
    ht (List.cons.inj (hrest.symm.trans h)).1
  have hfalse : lower (strip (c :: t)) ≠ "false".toList := fun h =>
    hf (List.cons.inj (hrest.symm.trans h)).1
  rw [coerceBoolean, if_neg htrue, if_neg hfalse]

theorem Numeral.start {c : Char} {t digits : Text} {n : Int} (h : Numeral (c :: t) digits n) :
    isDigit c = true ∨ c = '+' ∨ c = '-' := by
  generalize hu : c :: t = u at h
  cases h with
  | bare hdigits => exact .inl (hdigits.digit c (hu ▸ List.mem_cons_self))
  | plus _ => exact .inr (.inl (List.cons.inj hu).1)
  | minus _ => exact .inr (.inr (List.cons.inj hu).1)

/-- Behind its start, a numeral is made of digits. -/
theorem Numeral.digit_of_mem {c d : Char} {t digits : Text} {n : Int}
    (h : Numeral (c :: t) digits n) (hd : d ∈ t) : isDigit d = true := by
  generalize hu : c :: t = u at h
  cases h with
  | bare hdigits => exact hdigits.digit d (hu ▸ List.mem_cons_of_mem c hd)
  | plus hdigits => exact hdigits.digit d ((List.cons.inj hu).2 ▸ hd)
  | minus hdigits => exact hdigits.digit d ((List.cons.inj hu).2 ▸ hd)

namespace Foreign

theorem coerceBoolean_eq {t : Text} (h : Foreign t) :
    coerceBoolean (.text t) = .error (.fault .notBoolean) := by
  cases h with
  | start hc _ => exact coerceBoolean_of_start hc _
  | stray hc _ _ => exact coerceBoolean_of_start hc _

theorem not_numeral {t core digits : Text} {n : Int} (h : Foreign t) (ht : Padded core t) :
    ¬ Numeral core digits n := by
  intro hnumeral
  rw [← strip_padded ht hnumeral.trimmed] at hnumeral
  cases h with
  | @start c u _ hc =>
    simp only [startsNoNumeral, Bool.and_eq_true, Bool.not_eq_true', bne_iff_ne] at hc
    obtain ⟨⟨⟨hblank, hdigit⟩, hplus⟩, hminus⟩ := hc
    rw [strip_cons hblank] at hnumeral
    rcases hnumeral.start with h | h | h
    · rw [hdigit] at h
      cases h
    · exact hplus h
    · exact hminus h
  | @stray c d u hc hmem hd =>
    simp only [startsNoWord, Bool.and_eq_true, Bool.not_eq_true'] at hc
    simp only [isStray, Bool.and_eq_true, Bool.not_eq_true'] at hd
    rw [strip_cons hc.1.1.2] at hnumeral
    rw [hnumeral.digit_of_mem (mem_stripEnd hmem hd.1)] at hd
    cases hd.2

theorem coerceInt_eq {t : Text} (h : Foreign t) :
    coerceInt (.text t) = .error (.fault .notInt) :=
  coerceInt_of_not_numeral fun _ _ _ ht => h.not_numeral ht

end Foreign

/-! ### Texts of values -/

/-- Digits that are broken off are foreign, also behind a minus sign. -/
theorem Broken.foreign {t : Text} (h : Broken t) : Foreign t ∧ Foreign ('-' :: t) := by
  cases h with
  | @mark digits rest c hdigits hc =>
    have hstray : isStray c = true := List.all_eq_true.1 (by decide : ['.', '-'].all isStray) c hc
    obtain ⟨d, ds, rfl⟩ := List.exists_cons_of_ne_nil hdigits.ne_nil
    have hd := startsNoWord_of_isDigit (hdigits.digit d List.mem_cons_self)
    exact ⟨.stray hd (List.mem_append_right _ List.mem_cons_self) hstray,
      .stray (by decide) (List.mem_append_right _ List.mem_cons_self) hstray⟩
  | @exponent digits rest hdigits =>
    refine ⟨?_, .stray (by decide) (List.mem_append_right _ List.mem_cons_self)
      (by decide : isStray 'e' = true)⟩
    cases digits with
    | nil => exact .start (by decide) (by decide)
    | cons d ds =>
      have hd := startsNoWord_of_isDigit (hdigits d List.mem_cons_self)
      exact .stray hd (List.mem_append_right _ List.mem_cons_self) (by decide : isStray 'e' = true)

theorem Binary64.foreign_render (x : Binary64) : Foreign x.render := by
  cases x with
  | nan => exact .start (by decide) (by decide)
  | infinite negative =>
    cases negative
    · exact .start (by decide) (by decide)
    · exact .stray (by decide) List.mem_cons_self (by decide : isStray 'i' = true)
  | finite negative m e =>
    have hbroken := (Layout.standard.broken_magnitude m e).foreign
    cases negative
    · exact hbroken.1
    · exact hbroken.2

/-- The value is neither a text nor one whose text may stand for a boolean or an integer. -/
def Value.isOther : Value → Bool
  | .scalar .none | .scalar (.bool _) | .scalar (.int _) | .scalar (.text _) => false
  | _ => true

namespace Value
variable {v : Value} {t : Text}

theorem foreign_settingText (hv : v.isOther = true) (h : v.settingText = .ok t) : Foreign t := by
  cases v with
  | scalar s =>
    cases s with
    | none => cases hv
    | bool b => cases hv
    | int n => cases hv
    | text u => cases hv
    | float x =>
      cases h
      exact x.foreign_render
    | bytes content =>
      cases h
      exact .start (by decide) (by decide)
    | date d =>
      cases h
      exact d.broken_text.foreign.1
    | timestamp s =>
      cases h
      exact s.broken_text.foreign.1
  | list items =>
    obtain ⟨parts, -, h⟩ := bind_eq_ok (show (list items).literal = .ok t from h)
    cases h
    exact .start (by decide) (by decide)
  | map entries =>
    obtain ⟨parts, -, h⟩ := bind_eq_ok (show (map entries).literal = .ok t from h)
    cases h
    exact .start (by decide) (by decide)
  | set members =>
    cases members with
    | nil =>
      cases h
      exact .start (by decide) (by decide)
    | cons s members =>
      obtain ⟨parts, -, h⟩ := bind_eq_ok (show (set (s :: members)).literal = .ok t from h)
      cases h
      exact .start (by decide) (by decide)
  | pair first second =>
    obtain ⟨left, -, h⟩ := bind_eq_ok (show (pair first second).literal = .ok t from h)
    obtain ⟨right, -, h⟩ := bind_eq_ok h
    cases h
    exact .start (by decide) (by decide)
  | listAgain =>
    cases h
    exact .start (by decide) (by decide)
  | mapAgain =>
    cases h
    exact .start (by decide) (by decide)

/-- Such a value is no boolean and no integer itself. -/
theorem coerce_of_isOther (hv : v.isOther = true) :
    coerceBoolean v = .error (.fault .notBoolean) ∧ coerceInt v = .error (.fault .notInt) := by
  cases v with
  | scalar s =>
    cases s with
    | none => cases hv
    | bool b => cases hv
    | int n => cases hv
    | text u => cases hv
    | _ => exact ⟨rfl, rfl⟩
  | _ => exact ⟨rfl, rfl⟩

end Value

/-! ### Reading texts of values -/

theorem eq_of_writeInteger {n : Int} {t : Text} (h : writeInteger n = .ok t) :
    t = signedDecimal n ∧ (decimal n.natAbs).length ≤ maxDigits := by
  rw [writeInteger] at h
  split at h
  · next hlength =>
    cases h
    exact ⟨rfl, hlength⟩
  · cases h

theorem coerceBoolean_signedDecimal (n : Int) :
    coerceBoolean (.text (signedDecimal n)) = .error (.fault .notBoolean) := by
  have hdigits : ∀ m, coerceBoolean (.text (decimal m)) = .error (.fault .notBoolean) := by
    intro m
    have hdecimal := isDigits_decimal m
    obtain ⟨d, ds, hcons⟩ := List.exists_cons_of_ne_nil hdecimal.ne_nil
    rw [hcons]
    exact coerceBoolean_of_start (startsNoWord_of_isDigit (hdecimal.digit d (by simp [hcons]))) ds
  cases n with
  | ofNat m => exact hdigits m
  | negSucc m => exact coerceBoolean_of_start (by decide) _

/-- **Coercion to BOOLEAN or INT does not tell a value from its text.** -/
theorem SettingType.coerce_settingText {τ : SettingType} (hτ : τ ≠ .string) {v : Value} {t : Text}
    (h : v.settingText = .ok t) : τ.coerce (.text t) = τ.coerce v := by
  by_cases hv : v.isOther = true
  · have hforeign := Value.foreign_settingText hv h
    obtain ⟨hboolean, hint⟩ := Value.coerce_of_isOther hv
    cases τ with
    | string => exact absurd rfl hτ
    | boolean => exact hforeign.coerceBoolean_eq.trans hboolean.symm
    | int => exact hforeign.coerceInt_eq.trans hint.symm
  · cases v with
    | scalar s =>
      cases s with
      | none =>
        cases h
        cases τ with
        | string => exact absurd rfl hτ
        | boolean => rfl
        | int => rfl
      | bool b =>
        cases h
        cases τ with
        | string => exact absurd rfl hτ
        | boolean => cases b <;> rfl
        | int => cases b <;> rfl
      | int n =>
        obtain ⟨rfl, hlength⟩ := eq_of_writeInteger h
        cases τ with
        | string => exact absurd rfl hτ
        | boolean => exact coerceBoolean_signedDecimal n
        | int => exact coerceInt_of_numeral (padded_self _) (numeral_signedDecimal n) hlength
      | text u =>
        cases h
        rfl
      | _ => exact absurd rfl hv
    | _ => exact absurd rfl hv

/-- **A setting of type BOOLEAN or INT means the same in a typed bag and in one of texts.**
Every value whose integers can be written has a text, and the definition of a setting makes of
that text what it makes of the value: the same value, or the same refusal. -/
theorem read_settingText (d : Definition) (hd : d.type ≠ .string) (v : Value)
    (hv : ∀ n ∈ v.integers, (decimal n.natAbs).length ≤ 4300) :
    ∃ t, v.settingText = .ok t ∧ d.read (.text t) = d.read v := by
  have hwritable : v.integers.all isWritable = true :=
    List.all_eq_true.2 fun n hn => decide_eq_true (hv n hn)
  obtain ⟨t, htext⟩ := (hwritable ▸ v.settingText_guarded).exists_ok
  refine ⟨t, htext, ?_⟩
  rw [Definition.read, Definition.read, SettingType.coerce_settingText hd htext]

/-- A time to live that is too small, one that stands in lists inside of each other, and a
flag. -/
theorem read_settingText_three :
    let ttl := TableSetting.ttl.definition ⟨['t'], ['k'], ['s']⟩
    let flag := TableSetting.deletesEnabled.definition ⟨['t'], ['k'], ['s']⟩
    let nested := Value.list [.list [.scalar (.int 5), .list [.scalar (.bool true)]], .scalar .none]
    (∃ t, (Value.scalar (.int (-2))).settingText = .ok t ∧
      ttl.read (.text t) = ttl.read (.scalar (.int (-2)))) ∧
    nested.settingText = .ok "[[5, [True]], None]".toList ∧
    (∃ t, nested.settingText = .ok t ∧ ttl.read (.text t) = ttl.read nested) ∧
    ∃ t, (Value.scalar (.bool true)).settingText = .ok t ∧
      flag.read (.text t) = flag.read (.scalar (.bool true)) :=
  ⟨read_settingText _ (by decide) _ (by decide), by decide +kernel,
    read_settingText _ (by decide) _ (by decide), read_settingText _ (by decide) _ (by decide)⟩

end TopicTables
