import RowSql.Number.Binary64

/-!
# Values

What a statement binds and a result column holds. Two values are the same when their
shapes and contents agree; they are equivalent when they compare equal, where a number
that is not a number compares equal to nothing and the two zeros to each other.

A row keeps a `Cell` for each column: `none` until a value is supplied, so an explicit
`null` is told apart from a column left out.
-/
namespace RowSql

inductive Value where
  | null
  | bool (b : Bool)
  | int (i : Int64)
  | float (x : Binary64)
  | text (s : String)
  | array (items : List Value)
  deriving Repr

abbrev Cell := Option Value

namespace Value

mutual

/-- Shape by shape comparison, with a given comparison of numbers. -/
def compareWith (numbers : Binary64 → Binary64 → Bool) : Value → Value → Bool
  | null, null => true
  | bool a, bool b => a == b
  | int a, int b => a == b
  | float a, float b => numbers a b
  | text a, text b => a == b
  | array a, array b => compareAllWith numbers a b
  | _, _ => false

def compareAllWith (numbers : Binary64 → Binary64 → Bool) : List Value → List Value → Bool
  | [], [] => true
  | v :: vs, w :: ws => compareWith numbers v w && compareAllWith numbers vs ws
  | _, _ => false

end

/-- Comparison as the database compares: by number, not by bit. -/
def eqv : Value → Value → Bool := compareWith Binary64.eqv

def eqvAll : List Value → List Value → Bool := compareAllWith Binary64.eqv

mutual

theorem compareWith_iff_eq : ∀ a b : Value, compareWith (· == ·) a b = true ↔ a = b
  | null, b => by cases b <;> simp [compareWith]
  | bool x, b => by cases b <;> simp [compareWith]
  | int x, b => by cases b <;> simp [compareWith]
  | float x, b => by cases b <;> simp [compareWith]
  | text x, b => by cases b <;> simp [compareWith]
  | array xs, b => by
    cases b <;> simp only [compareWith, reduceCtorEq, Bool.false_eq_true, array.injEq]
    exact compareAllWith_iff_eq xs _

theorem compareAllWith_iff_eq :
    ∀ a b : List Value, compareAllWith (· == ·) a b = true ↔ a = b
  | [], b => by cases b <;> simp [compareAllWith]
  | v :: vs, [] => by simp [compareAllWith]
  | v :: vs, w :: ws => by
    simp [compareAllWith, compareWith_iff_eq v w, compareAllWith_iff_eq vs ws]

end

instance : DecidableEq Value := fun a b =>
  decidable_of_iff (compareWith (· == ·) a b = true) (compareWith_iff_eq a b)

instance : Inhabited Value := ⟨null⟩

def isNull : Value → Bool
  | null => true
  | _ => false

def asInt? : Value → Option Int64
  | int i => some i
  | _ => none

def asText? : Value → Option String
  | text s => some s
  | _ => none

end Value

namespace Cell

def isMissing (c : Cell) : Bool := c.isNone

def eqv : Cell → Cell → Bool
  | none, none => true
  | some v, some w => v.eqv w
  | _, _ => false

end Cell
end RowSql
