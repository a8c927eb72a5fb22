/-!
# Events

What the library reports while it works: a schema entering a catalog, the definitions of
a catalog, each statement about to run, and each one that failed.
-/
namespace RowSql

inductive Level where
  | error
  | warn
  | info
  | debug
  | trace
  deriving DecidableEq, Repr

inductive Event where
  | registered (table : String) (columns : Nat) (origin : String)
  | defined (tables statements : Nat)
  | executing (level : Level) (parameters : Nat) (sql : String)
  | failed (reason : String)
  deriving DecidableEq, Repr

namespace Event

def level : Event → Level
  | registered .. => .debug
  | defined .. => .debug
  | executing level .. => level
  | failed _ => .warn

end Event
end RowSql
