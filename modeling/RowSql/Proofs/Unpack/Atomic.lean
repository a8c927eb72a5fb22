import RowSql.Proofs.Unpack.Tuples

/-!
# What a retrieval does to its cursor

A retrieval asks a cursor for rows: those of a selection, those with a key, or those of a join.
It is refused before anything runs, or runs exactly one statement. In the first case the cursor
stays as it was. In the second the statement is recorded, one entry of the script is used up,
and nothing is left waiting, whether or not rows can be made of the result. Main statement:
`Cursor.retrievals_atomic`.
-/
namespace RowSql

/-- The three entries that an execution can meet: none, a result, or a failure. -/
theorem Tape.execute_cases (t : Tape) (s : Statement) :
    (t.script.head? = none ∧ (t.execute s).1 = .ok () ∧ (t.execute s).2.pending = []) ∨
    (∃ rows, t.script.head? = some (.ok rows) ∧ (t.execute s).1 = .ok () ∧
      (t.execute s).2.pending = rows) ∨
    (∃ reason, t.script.head? = some (.error reason) ∧
      (t.execute s).1 = .error (.cursor reason) ∧ (t.execute s).2.pending = []) := by
  unfold execute
  cases t.script with
  | nil => exact Or.inl ⟨rfl, rfl, rfl⟩
  | cons entry script =>
    cases entry with
    | ok rows => exact Or.inr (Or.inl ⟨rows, rfl, rfl, rfl⟩)
    | error reason => exact Or.inr (Or.inr ⟨reason, rfl, rfl, rfl⟩)

namespace Cursor

variable {α : Type} {c : Cursor} {q : Query} {s : Statement} {fault : Fault}
  {read : Tuples → Except Fault α}

/-- The statement that a call would run: its query, compiled for this cursor. -/
def compiled (c : Cursor) (asked : Except Fault Query) : Except Fault Statement :=
  asked.bind fun q => q.build c.marker

/-- What comes of a statement, by the entry of the script that it meets. -/
def scripted (c : Cursor) (read : Tuples → Except Fault α) : Except Fault α :=
  match c.tape.script.head? with
  | none => read []
  | some (.ok tuples) => read tuples
  | some (.error reason) => .error (.cursor reason)

/-- One statement has run on `c`, and its result has been taken away. -/
structure Ran (c : Cursor) (s : Statement) (read : Tuples → Except Fault α)
    (o : Outcome α) : Prop where
  executed : o.cursor.tape.executed = c.tape.executed ++ [s]
  script : o.cursor.tape.script = c.tape.script.tail
  pending : o.cursor.tape.pending = []
  marker : o.cursor.marker = c.marker
  trace : o.cursor.trace = c.trace
  result : o.result = c.scripted read

/-- Nothing happens to the cursor when there is no statement to run, and otherwise that one
statement runs. -/
structure Atomic (c : Cursor) (asked : Except Fault Query) (read : Tuples → Except Fault α)
    (o : Outcome α) : Prop where
  refused : ∀ fault, c.compiled asked = .error fault →
    o.result = .error fault ∧ o.cursor = c ∧ o.log = []
  ran : ∀ s, c.compiled asked = .ok s → Ran c s read o

/-- What comes of a statement is read off some result. -/
theorem exists_of_scripted_eq_ok {a : α} (h : c.scripted read = .ok a) :
    ∃ tuples, read tuples = .ok a := by
  unfold scripted at h
  split at h
  · exact ⟨[], h⟩
  · exact ⟨_, h⟩
  · cases h

/-! ## Running a query -/

theorem query_of_error (h : q.build c.marker = .error fault) :
    c.query q read = { result := .error fault, cursor := c } := by
  simp only [query, run, h]

theorem query_of_failed (h : q.build c.marker = .ok s)
    (hfailed : (c.tape.execute s).1 = .error fault) :
    c.query q read =
      { result := .error fault, cursor := (c.execute s).cursor, log := (c.execute s).log } := by
  have hresult : (c.execute s).result = .error fault := hfailed
  simp only [query, run, h, hresult, Except.map]

theorem query_of_done (h : q.build c.marker = .ok s) (hdone : (c.tape.execute s).1 = .ok ()) :
    c.query q read =
      { result := read (c.tape.execute s).2.pending
        cursor := (c.execute s).cursor.fetchAll.2
        log := (c.execute s).log } := by
  have hresult : (c.execute s).result = .ok () := hdone
  simp only [query, run, h, hresult, Except.map]
  rfl

/-- A query that compiles runs once, and whatever its result is, it is drained. -/
theorem ran_query (h : q.build c.marker = .ok s) : Ran c s read (c.query q read) := by
  have hdrained : (c.tape.execute s).1 = .ok () →
      c.scripted read = read (c.tape.execute s).2.pending → Ran c s read (c.query q read) := by
    intro hdone hread
    rw [query_of_done h hdone]
    exact ⟨c.tape.executed_execute s, c.tape.script_execute s, rfl, c.tape.marker_execute s, rfl,
      hread.symm⟩
  rcases c.tape.execute_cases s with ⟨hhead, hdone, hpending⟩ | ⟨rows, hhead, hdone, hpending⟩ |
    ⟨reason, hhead, hfailed, hpending⟩
  · apply hdrained hdone
    rw [scripted, hhead, hpending]
  · apply hdrained hdone
    rw [scripted, hhead, hpending]
  · rw [query_of_failed h hfailed]
    refine ⟨c.tape.executed_execute s, c.tape.script_execute s, hpending, c.tape.marker_execute s,
      rfl, ?_⟩
    rw [scripted, hhead]

theorem atomic_query (c : Cursor) (q : Query) (read : Tuples → Except Fault α) :
    Atomic c (.ok q) read (c.query q read) := by
  refine ⟨fun fault hfault => ?_, fun s hs => ran_query hs⟩
  rw [query_of_error hfault]
  exact ⟨rfl, rfl, rfl⟩

/-- A call that asks for nothing leaves the cursor alone. -/
theorem atomic_of_error (c : Cursor) (fault : Fault) (read : Tuples → Except Fault α) :
    Atomic c (.error fault) read { result := .error fault, cursor := c } := by
  refine ⟨fun fault' h => ?_, fun s h => ?_⟩
  · cases h
    exact ⟨rfl, rfl, rfl⟩
  · cases h

/-! ## Retrievals -/

/-- What a selection asks for; its tuples are read by position, so it must ask for whole rows. -/
def askedOfSelect (q : Select) : Except Fault Query :=
  if q.isWhole then .ok (.select q) else .error (.misuse .partialProjection)

/-- What a look-up by key asks for. -/
def askedOfFind (s : Schema) (values : List Value) : Except Fault Query :=
  (Select.byKey s values).map Query.select

theorem atomic_select (c : Cursor) (q : Select) :
    Atomic c (askedOfSelect q) q.schema.rows (c.select q) := by
  unfold askedOfSelect select
  split
  · exact atomic_query c (.select q) q.schema.rows
  · exact atomic_of_error c _ _

theorem byKey_eq_ok {schema : Schema} {values : List Value} {q : Select}
    (h : Select.byKey schema values = .ok q) : q.schema = schema ∧ q.isWhole = true := by
  unfold Select.byKey at h
  cases hb : schema.keyBindings values with
  | error fault =>
    rw [hb] at h
    cases h
  | ok conditions =>
    rw [hb] at h
    cases h
    exact ⟨rfl, rfl⟩

/-- A look-up by key is a selection of whole rows, unless the key is refused. -/
theorem atomic_find (c : Cursor) (schema : Schema) (values : List Value) :
    Atomic c (askedOfFind schema values) schema.rows (c.find schema values) := by
  unfold askedOfFind find
  cases hq : Select.byKey schema values with
  | error fault => exact atomic_of_error c fault _
  | ok q =>
    obtain ⟨rfl, hwhole⟩ := byKey_eq_ok hq
    have hselect := atomic_select c q
    rw [askedOfSelect, if_pos hwhole] at hselect
    exact hselect

/-- Each retrieval is all or nothing towards its cursor: refused, it has left the cursor as it
was, and otherwise exactly its statement has run and nothing of the result is left waiting. Rows
are made of a result exactly when every tuple fits, and the first misfit is reported if not. -/
theorem retrievals_atomic (c : Cursor) :
    (∀ q : Select, Atomic c (askedOfSelect q) q.schema.rows (c.select q)) ∧
    (∀ s values, Atomic c (askedOfFind s values) s.rows (c.find s values)) ∧
    (∀ q : Join, Atomic c (.ok (.join q)) (splitAll q.schemas) (c.join q)) ∧
    (∀ s : Schema, Tuples.ReadsEach (fun t => t.length ≤ s.width)
      (fun t => .tooManyValues s.name t.length s.width) (Row.Holds s) s.rows) ∧
    (∀ schemas : List Schema, Tuples.ReadsEach
      (fun t => t.length = (schemas.map Schema.width).sum)
      (fun t => .misalignedTuple (schemas.map Schema.width).sum t.length)
      (Join.Dealt schemas) (splitAll schemas)) :=
  ⟨atomic_select c, atomic_find c, fun q => atomic_query c (.join q) (splitAll q.schemas),
    Schema.readsEach_rows, Join.readsEach_splitAll⟩

end Cursor
end RowSql
