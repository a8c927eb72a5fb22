import RowSql.Cursor.Tape
import RowSql.Cursor.Trace

/-!
# Cursors

A cursor runs statements on a tape, and reports them when it is traced. Tracing changes
neither results nor the tape. The outcome of a run keeps what happened to the cursor and
what was reported apart from success and failure, since both outlive a failure.
-/
namespace RowSql

structure Cursor where
  tape : Tape
  trace : Option Trace := none

/-- What a run on a cursor leads to. -/
structure Outcome (α : Type) where
  result : Except Fault α
  cursor : Cursor
  log : List Event := []

namespace Cursor

def marker (c : Cursor) : Marker := c.tape.marker

/-- What a traced cursor reports of a statement: its text before it runs, and then the
reason if it failed. -/
def report (trace : Trace) (s : Statement) (result : Except Fault Unit) : List Event :=
  let running := Event.executing trace.level s.parameters.length (trace.shown s.sql)
  match result with
  | .ok _ => [running]
  | .error fault => [running, .failed fault.message]

def execute (c : Cursor) (s : Statement) : Outcome Unit :=
  let (result, tape) := c.tape.execute s
  let log := match c.trace with
    | none => []
    | some trace => report trace s result
  ⟨result, { c with tape }, log⟩

def fetchAll (c : Cursor) : Tuples × Cursor :=
  let (rows, tape) := c.tape.fetchAll
  (rows, { c with tape })

/-- The same cursor without its trace. -/
def untraced (c : Cursor) : Cursor := { c with trace := none }

end Cursor
end RowSql
