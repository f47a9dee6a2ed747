import TopicTables.Text.Basic

/-! Bytes written in base 64.

Four characters hold three bytes. Characters outside the alphabet are passed over, and
padding ends the text once it completes a group of four. -/
namespace TopicTables.Base64

/-- The six bits of a character. -/
def sextet? (c : Char) : Option Nat :=
  if 'A' ≤ c ∧ c ≤ 'Z' then some (c.toNat - 65)
  else if 'a' ≤ c ∧ c ≤ 'z' then some (c.toNat - 71)
  else if isDigit c then some (c.toNat + 4)
  else if c = '+' then some 62
  else if c = '/' then some 63
  else none

/-- What is known inside a group: how many of its characters were read, the bits that are
left over from them, and how many paddings followed. -/
structure Group where
  length : Nat
  bits : Nat
  padding : Nat

/-- The start of a group. -/
def Group.start : Group := ⟨0, 0, 0⟩

/-- Takes six more bits into a group, which may complete a byte. -/
def Group.add (g : Group) (v : Nat) : List UInt8 × Group :=
  match g.length with
  | 0 => ([], ⟨1, v, 0⟩)
  | 1 => ([(g.bits * 4 + v / 16).toUInt8], ⟨2, v % 16, 0⟩)
  | 2 => ([(g.bits * 16 + v / 4).toUInt8], ⟨3, v % 4, 0⟩)
  | _ => ([(g.bits * 64 + v).toUInt8], .start)

/-- The bytes of the rest of a text inside a group. -/
def decodeFrom (g : Group) : Text → Option (List UInt8)
  | [] => if g.length = 0 then some [] else none
  | c :: t =>
    if c = '=' then
      if g.length < 2 then decodeFrom g t
      else if g.length + g.padding + 1 ≥ 4 then some []
      else decodeFrom { g with padding := g.padding + 1 } t
    else match sextet? c with
      | none => decodeFrom g t
      | some v => (decodeFrom (g.add v).2 t).map ((g.add v).1 ++ ·)

/-- The bytes of a text, unless its last group is not complete. -/
def decode? (t : Text) : Option (List UInt8) := decodeFrom .start t

end TopicTables.Base64
