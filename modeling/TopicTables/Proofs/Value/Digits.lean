import TopicTables.Value.Flatten
import TopicTables.Proofs.Steps

/-! Which values can be written.

An integer of more than `maxDigits` digits has no text, and neither has a list or map that
it stands in, however deep. Nothing else stands in the way: a value can be shown exactly
when all of its integers can be written (`Value.echo_isOk`). This holds at any depth, since
only the reader of documents bounds how deep a value nests. -/
namespace TopicTables

/-- The integer has few enough digits to be written. -/
def isWritable (n : Int) : Bool := (decimal n.natAbs).length ≤ maxDigits

theorem isWritable_iff {n : Int} :
    isWritable n = true ↔ (decimal n.natAbs).length ≤ maxDigits :=
  decide_eq_true_iff

def Scalar.integers : Scalar → List Int
  | .int n => [n]
  | _ => []

mutual

/-- The integers that stand in a value, keys of maps included. -/
def Value.integers : Value → List Int
  | .scalar s => s.integers
  | .list items => Value.listIntegers items
  | .map entries => Value.entryIntegers entries
  | .set members => members.flatMap Scalar.integers
  | .pair first second => first.integers ++ second.integers
  | .listAgain | .mapAgain => []

def Value.listIntegers : List Value → List Int
  | [] => []
  | v :: vs => v.integers ++ Value.listIntegers vs

def Value.entryIntegers : List (Scalar × Value) → List Int
  | [] => []
  | (k, v) :: es => k.integers ++ (v.integers ++ Value.entryIntegers es)

end

/-! ### Integers and texts -/

theorem writeInteger_guarded (n : Int) :
    Guarded .writing (isWritable n) (writeInteger n) := by
  rw [writeInteger, isWritable]
  split
  · next h =>
    rw [decide_eq_true h]
    exact .ok _
  · next h =>
    rw [decide_eq_false h]
    exact .error

theorem Scalar.display_guarded (s : Scalar) :
    Guarded .writing (s.integers.all isWritable) s.display := by
  cases s with
  | int n => simpa [display, integers] using writeInteger_guarded n
  | _ => exact .ok _

theorem Scalar.literal_guarded (s : Scalar) :
    Guarded .writing (s.integers.all isWritable) s.literal := by
  cases s with
  | int n => exact display_guarded (.int n)
  | _ => exact .ok _

mutual

theorem Value.literal_guarded :
    ∀ v : Value, Guarded .writing (v.integers.all isWritable) v.literal
  | .scalar s => by
    rw [Value.literal, Value.integers]
    exact s.literal_guarded
  | .list items => by
    rw [Value.literal, Value.integers]
    exact (Value.literals_guarded items).bind_pure _
  | .map entries => by
    rw [Value.literal, Value.integers]
    exact (Value.entryLiterals_guarded entries).bind_pure _
  | .set [] => .ok _
  | .set (s :: members) => by
    rw [Value.literal, Value.integers, List.all_flatMap]
    · exact (Guarded.mapM Scalar.literal_guarded).bind_pure _
    · exact List.cons_ne_nil s members
  | .pair first second => by
    rw [Value.literal, Value.integers, List.all_append]
    exact (Value.literal_guarded first).bind fun _ => (Value.literal_guarded second).bind_pure _
  | .listAgain => .ok _
  | .mapAgain => .ok _

theorem Value.literals_guarded : ∀ items : List Value,
    Guarded .writing ((Value.listIntegers items).all isWritable) (Value.literals items)
  | [] => .ok _
  | v :: vs => by
    rw [Value.literals, Value.listIntegers, List.all_append]
    exact (Value.literal_guarded v).bind fun _ => (Value.literals_guarded vs).bind_pure _

theorem Value.entryLiterals_guarded : ∀ entries : List (Scalar × Value),
    Guarded .writing ((Value.entryIntegers entries).all isWritable) (Value.entryLiterals entries)
  | [] => .ok _
  | (k, v) :: es => by
    rw [Value.entryLiterals, Value.entryIntegers, List.all_append, List.all_append]
    exact k.literal_guarded.bind fun _ => (Value.literal_guarded v).bind fun _ =>
      (Value.entryLiterals_guarded es).bind_pure _

end

theorem Value.display_guarded (v : Value) :
    Guarded .writing (v.integers.all isWritable) v.display := by
  cases v with
  | scalar s => exact s.display_guarded
  | _ => exact Value.literal_guarded _

theorem Value.settingText_guarded (v : Value) :
    Guarded .writing (v.integers.all isWritable) v.settingText := by
  cases v with
  | scalar s =>
    cases s with
    | none => exact .ok _
    | bool b => exact .ok _
    | _ => exact Value.display_guarded _
  | _ => exact Value.display_guarded _

/-- **A value can be shown exactly when its integers can be written.** -/
theorem Value.echo_isOk (v : Value) : v.echo.isOk = v.integers.all isWritable := by
  rw [echo, isOk_map, v.display_guarded.isOk]

end TopicTables
