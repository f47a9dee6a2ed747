import TopicTables.Text.Basic

/-! Texts as code points.

A text is made of characters. A surrogate is a code point and no character, yet an escape
in a document may name one, so a text has a form for it: the last code point of all is a
mark, a mark and a character of the last plane stand for a surrogate, and two marks for
the mark itself. `codes` reads what `ofCodes` writes (`codes_ofCodes`); a text without
the mark is its own code points. -/
namespace TopicTables

/-- The character that marks a surrogate. -/
def mark : Char := Char.ofNat 0x10FFFF

/-- The code point is one half of a pair and stands for no character. -/
def isSurrogate (n : Nat) : Bool := 0xD800 ≤ n && n ≤ 0xDFFF

/-- How far the character behind a mark lies above its surrogate. -/
def surrogateShift : Nat := 0x101800

/-- The text of a code point. -/
def ofCode (n : Nat) : Text :=
  if isSurrogate n then [mark, Char.ofNat (n + surrogateShift)]
  else if n = mark.toNat then [mark, mark]
  else [Char.ofNat n]

/-- The text of code points. -/
def ofCodes (ns : List Nat) : Text := ns.flatMap ofCode

/-- The text of characters as they stand in a file or an argument. -/
def ofChars (cs : List Char) : Text := cs.flatMap fun c => ofCode c.toNat

/-- The code point of two characters of which the first is a mark. -/
def markedCode (c : Char) : Nat := if c = mark then mark.toNat else c.toNat - surrogateShift

/-- The code points of a text. -/
def codes : Text → List Nat
  | [] => []
  | [c] => [c.toNat]
  | c :: d :: t => if c = mark then markedCode d :: codes t else c.toNat :: codes (d :: t)

theorem codes_cons {c : Char} (h : c ≠ mark) (t : Text) : codes (c :: t) = c.toNat :: codes t := by
  cases t <;> simp [codes, h]

theorem codes_mark (c : Char) (t : Text) : codes (mark :: c :: t) = markedCode c :: codes t := by
  simp [codes]

theorem toNat_ofNat_of_valid {n : Nat} (h : n < 0xD800 ∨ 0xDFFF < n ∧ n < 0x110000) :
    (Char.ofNat n).toNat = n := by
  have hv : Char.ofNat n = Char.ofNatAux n h := dif_pos h
  rw [hv]
  rfl

theorem codes_ofCode_append {n : Nat} (h : n < 0x110000) (t : Text) :
    codes (ofCode n ++ t) = n :: codes t := by
  unfold ofCode
  split
  · rename_i hs
    simp only [isSurrogate, Bool.and_eq_true, decide_eq_true_eq] at hs
    have hn : (Char.ofNat (n + surrogateShift)).toNat = n + surrogateShift :=
      toNat_ofNat_of_valid (by simp only [surrogateShift]; omega)
    have hm : Char.ofNat (n + surrogateShift) ≠ mark := by
      intro heq
      have := congrArg Char.toNat heq
      rw [hn, mark, toNat_ofNat_of_valid (by decide), surrogateShift] at this
      omega
    simp [codes_mark, markedCode, hm, hn]
  · rename_i hs
    split
    · rename_i he
      simp [codes_mark, markedCode, he]
    · rename_i he
      have hn : (Char.ofNat n).toNat = n := toNat_ofNat_of_valid (by
        simp only [isSurrogate, Bool.and_eq_true, decide_eq_true_eq] at hs
        omega)
      have hm : Char.ofNat n ≠ mark := fun heq => he (by rw [← heq, hn])
      simp [codes_cons hm, hn]

/-- Code points are read back from their text. -/
theorem codes_ofCodes {ns : List Nat} (h : ∀ n ∈ ns, n < 0x110000) : codes (ofCodes ns) = ns := by
  induction ns with
  | nil => rfl
  | cons n ns ih =>
    rw [ofCodes, List.flatMap_cons, codes_ofCode_append (h n (by simp))]
    exact congrArg _ (ih fun m hm => h m (by simp [hm]))

/-- The characters of a text, with a replacement for each surrogate. -/
def toChars (replacement : Nat → List Char) (t : Text) : List Char :=
  (codes t).flatMap fun n => if isSurrogate n then replacement n else [Char.ofNat n]

/-- How many bytes a code point takes in UTF-8. -/
def codeBytes (n : Nat) : Nat :=
  if n < 0x80 then 1 else if n < 0x800 then 2 else if n < 0x10000 then 3 else 4

/-- How many bytes a text takes in UTF-8. -/
def byteCount (t : Text) : Nat := (codes t).foldl (fun size n => size + codeBytes n) 0

end TopicTables
