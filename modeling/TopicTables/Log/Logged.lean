import TopicTables.Log.Event

/-! Computations that log.

A logged computation has an outcome and the events that it logged on the way, in the order
in which they happened. One that fails logs nothing more, and what it logged before stays. -/
namespace TopicTables

structure Logged (ε α : Type) where
  outcome : Except ε α
  log : List LogEvent

namespace Logged
variable {ε ε' α β : Type}

/-- The computation behind events that were logged before it. -/
def after (earlier : List LogEvent) (m : Logged ε α) : Logged ε α := ⟨m.outcome, earlier ++ m.log⟩

protected def bind (m : Logged ε α) (next : α → Logged ε β) : Logged ε β :=
  match m.outcome with
  | .ok a => (next a).after m.log
  | .error e => ⟨.error e, m.log⟩

instance : Monad (Logged ε) where
  pure a := ⟨.ok a, []⟩
  bind := Logged.bind

/-- An outcome for which nothing is logged. -/
def quiet (outcome : Except ε α) : Logged ε α := ⟨outcome, []⟩

/-- Logs events, one after the other. -/
def emit (events : List LogEvent) : Logged ε Unit := ⟨.ok (), events⟩

/-- The computation with its outcome as a result, so that a failure can be looked at. -/
def attempt (m : Logged ε α) : Logged ε' (Except ε α) := ⟨.ok m.outcome, m.log⟩

/-! ### One step behind another -/

section Steps
variable {m : Logged ε α} {a : α} {e : ε} (next : α → Logged ε β)

theorem bind_of_ok (h : m.outcome = .ok a) : m >>= next = (next a).after m.log := by
  show m.bind next = _
  rw [Logged.bind, h]

theorem bind_of_error (h : m.outcome = .error e) : m >>= next = ⟨.error e, m.log⟩ := by
  show m.bind next = _
  rw [Logged.bind, h]

@[simp]
theorem attempt_bind (m : Logged ε' α) (next : Except ε' α → Logged ε β) :
    m.attempt >>= next = (next m.outcome).after m.log := rfl

@[simp]
theorem emit_bind (events : List LogEvent) (next : Unit → Logged ε α) :
    emit events >>= next = (next ()).after events := rfl

@[simp]
theorem after_mk (earlier log : List LogEvent) (outcome : Except ε α) :
    after earlier ⟨outcome, log⟩ = ⟨outcome, earlier ++ log⟩ := rfl

@[simp]
theorem pure_eq (a : α) : (pure a : Logged ε α) = ⟨.ok a, []⟩ := rfl

end Steps
end Logged
end TopicTables
