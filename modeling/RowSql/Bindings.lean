import RowSql.Value

/-!
# Bindings

An ordered list of `name = value` pairs: the conditions of a query, or the assignments
of an update. The order is the order of insertion, and it fixes both the text of a
statement and the order of its parameters.
-/
namespace RowSql

abbrev Bindings := List (String × Value)

namespace Bindings

def push (b : Bindings) (name : String) (v : Value) : Bindings := b ++ [(name, v)]

def keys (b : Bindings) : List String := b.map Prod.fst

def values (b : Bindings) : List Value := b.map Prod.snd

/-- Pairwise the same names with values that compare equal. -/
def eqv : Bindings → Bindings → Bool
  | [], [] => true
  | (k, v) :: b, (l, w) :: c => k == l && v.eqv w && eqv b c
  | _, _ => false

theorem zip_keys_values (b : Bindings) : b.keys.zip b.values = b := by
  simp [keys, values, List.zip_map']

end Bindings
end RowSql
