import TopicTables.Text.Basic

/-! Double quotes in names and mappings.

Inside a double-quoted name a quote is written twice. `double` writes a name that way
and `undouble?` takes it back, from nothing but such texts (`undouble?_eq_some_iff`). A
text is *closed* when its quotes pair up; `splitOutside` cuts at the separators that
stand outside quotes and cuts a piece that an unclosed quote leaves open at every
separator, so that one missing quote does not swallow the rest. -/
namespace TopicTables.Quoted

/-- The text with every quote written twice. -/
def double (t : Text) : Text := t.flatMap fun c => if c = '"' then ['"', '"'] else [c]

/-- The text with one quote for each two, unless a quote stands alone. -/
def undouble? : Text → Option Text
  | [] => some []
  | [c] => if c = '"' then none else some [c]
  | c :: d :: t =>
    if c ≠ '"' then (undouble? (d :: t)).map (c :: ·)
    else if d = '"' then (undouble? t).map ('"' :: ·)
    else none

/-- A body between quotes. -/
def enclose (body : Text) : Text := '"' :: body ++ ['"']

theorem double_cons (c : Char) (t : Text) :
    double (c :: t) = (if c = '"' then ['"', '"'] else [c]) ++ double t := rfl

theorem undouble?_cons {c : Char} (h : c ≠ '"') (t : Text) :
    undouble? (c :: t) = (undouble? t).map (c :: ·) := by
  cases t <;> simp [undouble?, h]

theorem undouble?_pair (t : Text) :
    undouble? ('"' :: '"' :: t) = (undouble? t).map ('"' :: ·) := by
  simp [undouble?]

theorem undouble?_double (t : Text) : undouble? (double t) = some t := by
  induction t with
  | nil => rfl
  | cons c t ih =>
    rw [double_cons]
    by_cases h : c = '"'
    · rw [if_pos h, List.cons_append, List.cons_append, List.nil_append, undouble?_pair, ih, h]
      rfl
    · rw [if_neg h, List.singleton_append, undouble?_cons h, ih]
      rfl

theorem eq_double_of_undouble? {body t : Text} (h : undouble? body = some t) :
    body = double t := by
  fun_induction undouble? body generalizing t with
  | case1 => cases h; rfl
  | case2 => cases h
  | case3 c hc => cases h; simp [double, hc]
  | case4 c d rest hc ih =>
    obtain ⟨u, hu, rfl⟩ := Option.map_eq_some_iff.1 h
    rw [double_cons, if_neg hc, List.singleton_append, ← ih hu]
  | case5 c rest hc ih =>
    obtain ⟨u, hu, rfl⟩ := Option.map_eq_some_iff.1 h
    rw [double_cons, if_pos rfl, ← ih hu, Decidable.not_not.1 hc]
    rfl
  | case6 => cases h

/-- A text is read back exactly if it was written. -/
theorem undouble?_eq_some_iff {body t : Text} : undouble? body = some t ↔ body = double t :=
  ⟨eq_double_of_undouble?, fun h => h ▸ undouble?_double t⟩

/-- The quotes of the text pair up. -/
def isClosed (t : Text) : Bool := t.count '"' % 2 == 0

/-- The pieces between the separators outside quotes; `inQuotes` tells whether an odd
number of quotes stands before the text. -/
def outsidePieces (separator : Char) : Bool → Text → List Text
  | _, [] => [[]]
  | inQuotes, c :: t =>
    if c = separator ∧ inQuotes = false then [] :: outsidePieces separator false t
    else (outsidePieces separator (inQuotes != (c == '"')) t).modifyHead (c :: ·)

/-- The pieces between the separators outside quotes, where a piece that an unclosed
quote leaves open is cut at every separator. -/
def splitOutside (separator : Char) (t : Text) : List Text :=
  (outsidePieces separator false t).flatMap fun piece =>
    if isClosed piece then [piece] else piece.splitOn separator

theorem outsidePieces_ne_nil (separator : Char) (inQuotes : Bool) (t : Text) :
    outsidePieces separator inQuotes t ≠ [] := by
  cases t with
  | nil => simp [outsidePieces]
  | cons c t =>
    rw [outsidePieces]
    split
    · simp
    · cases h : outsidePieces separator (inQuotes != (c == '"')) t with
      | nil => exact absurd h (outsidePieces_ne_nil _ _ t)
      | cons p ps => simp

end TopicTables.Quoted
