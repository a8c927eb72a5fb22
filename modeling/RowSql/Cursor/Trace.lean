import RowSql.Event

/-!
# Traces

How a traced cursor reports the statements it runs. Long statements are cut where their
bytes reach the limit, or before it, so that no character is cut.
-/
namespace RowSql

structure Trace where
  level : Level := .debug
  /-- The greatest number of bytes shown, or none for whole statements. -/
  limit : Option Nat := some 200
  deriving DecidableEq, Repr

/-- One choice about a trace. -/
inductive TraceSetting where
  | level (level : Level)
  | limit (bytes : Nat)
  | whole
  deriving DecidableEq, Repr

namespace Trace

def adjust (t : Trace) : TraceSetting → Trace
  | .level level => { t with level }
  | .limit bytes => { t with limit := some bytes }
  | .whole => { t with limit := none }

/-- The trace that settings lead to, a later one overriding an earlier one of its kind. -/
def ofSettings (settings : List TraceSetting) : Trace := settings.foldl adjust {}

/-- Go back from a place in a text, counted in bytes, until it is not inside a character. -/
def boundary (sql : String) : Nat → sql.Pos
  | 0 => sql.startPos
  | place + 1 =>
    if h : String.Pos.Raw.IsValid sql ⟨place + 1⟩ then sql.pos ⟨place + 1⟩ h
    else boundary sql place

/-- A front of a text that takes at most so many bytes. -/
def cut (sql : String) (limit : Nat) : String :=
  if sql.utf8ByteSize ≤ limit then sql else (sql.sliceTo (boundary sql limit)).copy

/-- A statement as it is shown; one that is cut ends in three dots. -/
def shown (t : Trace) (sql : String) : String :=
  match t.limit with
  | none => sql
  | some limit => if sql.utf8ByteSize ≤ limit then sql else cut sql limit ++ "..."

end Trace
end RowSql
