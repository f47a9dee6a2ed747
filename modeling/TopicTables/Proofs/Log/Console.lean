import TopicTables.Log.Console
import TopicTables.Log.Logged
import TopicTables.Proofs.Steps
import TopicTables.Proofs.Text.Pieces

/-! What a console shows of a log.

A log is told by its lines of each severity (`linesOf`). A console keeps those of the severities
that reach its least level (`messagesOf_records`), and prints one line for each of them with its
text inside (`forall₂_lines`). -/
namespace TopicTables

/-- The texts of the events of one severity. -/
def linesOf (s : Severity) (log : List LogEvent) : List Text :=
  (log.filter fun e => e.severity = s).map LogEvent.message

/-- The lines that were logged with a severity. -/
def Logged.lines {ε α : Type} (m : Logged ε α) (s : Severity) : List Text := linesOf s m.log

/-- The texts of the records of one severity. -/
def messagesOf (s : Severity) (records : List LogRecord) : List Text :=
  (records.filter fun r => r.level = (s.level : Int)).map LogRecord.message

/-! ### Lines of a part of the log -/

section Lines
variable (s : Severity)

@[simp]
theorem linesOf_append (log log' : List LogEvent) :
    linesOf s (log ++ log') = linesOf s log ++ linesOf s log' := by
  simp [linesOf]

/-- Parts that have one line each, of one severity, have these lines. -/
theorem linesOf_map {α : Type} (f : α → LogEvent) (line : α → Text) (level : Severity)
    (hlevel : ∀ a, (f a).severity = level) (hline : ∀ a, (f a).message = line a) (l : List α) :
    linesOf s (l.map f) = if s = level then l.map line else [] := by
  have hfilter : (fun e : LogEvent => decide (e.severity = s)) ∘ f =
      fun _ => decide (s = level) := by
    funext a
    simp [hlevel a, eq_comm]
  rw [linesOf, List.filter_map, hfilter]
  split
  · next hs => simp [hs, hline]
  · next hs => simp [hs]

theorem linesOf_cons (e : LogEvent) (line : Text) (level : Severity) (hlevel : e.severity = level)
    (hline : e.message = line) (log : List LogEvent) :
    linesOf s (e :: log) = (if s = level then [line] else []) ++ linesOf s log := by
  have hfirst : linesOf s [e] = if s = level then [line] else [] :=
    linesOf_map s (fun _ : Unit => e) (fun _ => line) level (fun _ => hlevel) (fun _ => hline) [()]
  rw [← List.singleton_append, linesOf_append, hfirst]

end Lines

/-! ### Records and printed lines -/

theorem Severity.level_inj {s s' : Severity} : s.level = s'.level ↔ s = s' := by
  cases s <;> cases s' <;> decide

namespace LogOptions
variable (o : LogOptions) (least : Nat) (seconds : Int) (millis : Nat) {log : List LogEvent}

/-- What a console shows of a severity is what was logged of it, or nothing. -/
theorem messagesOf_records (s : Severity) (log : List LogEvent) :
    messagesOf s (o.records least seconds millis log) =
      if least ≤ s.level then linesOf s log else [] := by
  have hlevel : (fun r : LogRecord => decide (r.level = (s.level : Int))) ∘
      o.record seconds millis = fun e => decide (e.severity = s) := by
    funext e
    show decide ((e.severity.level : Int) = s.level) = _
    simp only [Int.ofNat_inj, Severity.level_inj]
  have hmessage : LogRecord.message ∘ o.record seconds millis = LogEvent.message := rfl
  rw [messagesOf, records, List.filter_map, hlevel, List.map_map, hmessage, List.filter_filter]
  split
  · next hleast =>
    refine congrArg _ (List.filter_congr fun e _ => ?_)
    by_cases hs : e.severity = s
    · simp [hs, hleast]
    · simp [hs]
  · next hleast =>
    rw [List.map_eq_nil_iff, List.filter_eq_nil_iff]
    intro e _ hboth
    simp only [Bool.and_eq_true, decide_eq_true_eq] at hboth
    exact hleast (hboth.1 ▸ hboth.2)

theorem plain_isInfix {r : LogRecord} {line : Text} (h : r.plain = .ok line) :
    r.message <:+: line := by
  rw [LogRecord.plain] at h
  obtain ⟨time, -, h⟩ := bind_eq_ok h
  cases h
  have hjoined : joinWith " - ".toList ([time, r.logger, levelName r.level] ++ [r.message]) = _ :=
    joinWith_append (List.cons_ne_nil _ _) (List.cons_ne_nil _ _) _
  rw [joinWith_singleton] at hjoined
  show _ <:+: joinWith _ ([time, r.logger, levelName r.level] ++ [r.message])
  rw [hjoined]
  exact (List.suffix_append _ _).isInfix

theorem message_isInfix {r : LogRecord} {line : Text} (h : o.line r = .ok line) :
    r.message <:+: line := by
  rw [LogOptions.line] at h
  split at h
  · rw [LogRecord.coloured] at h
    obtain ⟨plain, hplain, h⟩ := bind_eq_ok h
    cases h
    exact (plain_isInfix hplain).trans (List.infix_append _ _ _)
  · exact plain_isInfix h

/-- A console prints a line for each of its records, with the text of the record in it. -/
theorem forall₂_lines {printed : List Text} (h : o.lines least seconds millis log = .ok printed) :
    List.Forall₂ (fun r line => r.message <:+: line) (o.records least seconds millis log)
      printed := by
  rw [lines] at h
  exact (forall₂_of_mapM_ok h).imp fun _ _ => o.message_isInfix

end LogOptions
end TopicTables
