import TopicTables.Value.Basic

/-! The order in which a set shows its members.

The members stand in slots, of which there are more than twice as many as members. The
first slot of a number is its residue modulo the number of slots; while slots are taken,
the member goes on to later ones. A set is shown slot by slot. Other members than numbers
have no fixed slot, and a set with one of them is shown in order of arrival. -/
namespace TopicTables.SetOrder

/-- The modulus that makes every number a residue: a power of two less one. -/
def modulus : Nat := pow2 61 - 1

/-- The residue of a number. The one place that no number takes is -1. -/
def residue? (s : Scalar) : Option Int :=
  let fromNat (negative : Bool) (n : Nat) : Int :=
    let r := signed negative (n % modulus)
    if r = -1 then -2 else r
  match s with
  | .bool b => some (if b then 1 else 0)
  | .int n => some (fromNat (n < 0) n.natAbs)
  | .float (.finite negative m e) => some (fromNat negative (m * pow2 (e.emod 61)))
  | .float (.infinite negative) => some (signed negative 314159)
  | _ => none

/-- The number of slots for a number of members. -/
def slotCount (members : Nat) : Nat :=
  if members < 5 then 8 else pow2 ((2 * members).log2 + 1)

/-- The slots next to each other that are tried from one on. -/
def run (slots slot : Nat) : List Nat :=
  if slot + 9 < slots then (List.range 10).map (slot + ·) else [slot]

/-- The first free slot for a member. The rest of its residue leads from one run of slots
to the next. -/
def findSlot (slots : Nat) (taken : List Nat) (slot rest : Nat) : Nat → Nat
  | 0 => slot
  | fuel + 1 => match (run slots slot).find? (!taken.contains ·) with
    | some free => free
    | none => findSlot slots taken ((slot * 5 + 1 + rest / 32) % slots) (rest / 32) fuel

/-- Puts a member with a residue into a slot. -/
def place (slots : Nat) (placed : List (Nat × Scalar)) (member : Int × Scalar) :
    List (Nat × Scalar) :=
  let rest := (member.1.emod (pow2 64)).toNat
  placed ++ [(findSlot slots (placed.map Prod.fst) (rest % slots) rest (slots + 64), member.2)]

/-- The members in the order in which they are shown. -/
def arrange (members : List Scalar) : List Scalar :=
  match members.mapM residue? with
  | some residues =>
    let placed := (residues.zip members).foldl (place (slotCount members.length)) []
    (placed.mergeSort fun a b => a.1 ≤ b.1).map Prod.snd
  | none => members

end TopicTables.SetOrder
