import RowSql.Query.Template

/-!
# Tapes

A tape stands in for a database: it records every statement it is given and replays a
script of results. Each execution uses up one entry of the script, and leaves its rows
to be fetched once.
-/
namespace RowSql

/-- The tuples of a result. -/
abbrev Tuples := List (List Value)

structure Tape where
  marker : Marker := .standard
  executed : List Statement := []
  script : List (Except String Tuples) := []
  pending : Tuples := []

namespace Tape

/-- A failed or unscripted execution leaves nothing to fetch. -/
def execute (t : Tape) (s : Statement) : Except Fault Unit × Tape :=
  let recorded := { t with executed := t.executed ++ [s], script := t.script.tail }
  match t.script with
  | [] => (.ok (), { recorded with pending := [] })
  | .ok rows :: _ => (.ok (), { recorded with pending := rows })
  | .error reason :: _ => (.error (.cursor reason), { recorded with pending := [] })

/-- Take the rows that are waiting. -/
def fetchAll (t : Tape) : Tuples × Tape := (t.pending, { t with pending := [] })

/-- Let rows wait without an execution. -/
def prime (t : Tape) (rows : Tuples) : Tape := { t with pending := rows }

@[simp] theorem executed_execute (t : Tape) (s : Statement) :
    (t.execute s).2.executed = t.executed ++ [s] := by
  unfold execute; split <;> rfl

@[simp] theorem script_execute (t : Tape) (s : Statement) :
    (t.execute s).2.script = t.script.tail := by
  unfold execute; split <;> rfl

@[simp] theorem marker_execute (t : Tape) (s : Statement) :
    (t.execute s).2.marker = t.marker := by
  unfold execute; split <;> rfl

end Tape
end RowSql
