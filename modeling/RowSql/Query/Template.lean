import RowSql.Bindings
import RowSql.Query.Marker

/-!
# Templates

A template is a statement before its parameters are numbered: pieces of text with the
bound values standing where their markers will be. Rendering writes a marker for each
bound value, so text and parameters cannot come apart, and the choice of marker changes
nothing but the markers.
-/
namespace RowSql

inductive Piece where
  | text (s : String)
  | bind (v : Value)
  deriving DecidableEq, Repr

abbrev Template := List Piece

/-- The text of a statement and its parameters in the order of their markers. -/
structure Statement where
  sql : String
  parameters : List Value
  deriving DecidableEq, Repr

namespace Template

def parameters : Template → List Value
  | [] => []
  | .text _ :: rest => parameters rest
  | .bind v :: rest => v :: parameters rest

/-- The text, its first marker being the `n`-th. -/
def sqlFrom (m : Marker) : Nat → Template → String
  | _, [] => ""
  | n, .text s :: rest => s ++ sqlFrom m n rest
  | n, .bind _ :: rest => m.mark n ++ sqlFrom m (n + 1) rest

def render (m : Marker) (t : Template) : Statement := ⟨sqlFrom m 1 t, parameters t⟩

/-- Each name with an equals sign and the mark of its value, `separator` between them. -/
def assignments (separator : String) : Bindings → Template
  | [] => []
  | [(k, v)] => [.text (k ++ "="), .bind v]
  | (k, v) :: rest => .text (k ++ "=") :: .bind v :: .text separator :: assignments separator rest

/-- The conditions of a query, nothing when there are none. -/
def conditions : Bindings → Template
  | [] => []
  | b => .text " where " :: assignments " and " b

@[simp] theorem parameters_append (t u : Template) :
    parameters (t ++ u) = parameters t ++ parameters u := by
  induction t with
  | nil => rfl
  | cons p t ih => cases p <;> simp [parameters, ih]

theorem sqlFrom_append (m : Marker) (n : Nat) (t u : Template) :
    sqlFrom m n (t ++ u) = sqlFrom m n t ++ sqlFrom m (n + (parameters t).length) u := by
  induction t generalizing n with
  | nil => simp [sqlFrom, parameters]
  | cons p t ih =>
    cases p with
    | text s => simp [sqlFrom, parameters, ih, String.append_assoc]
    | bind v =>
      simp [sqlFrom, parameters, ih, String.append_assoc, Nat.add_assoc, Nat.add_comm 1]

@[simp] theorem parameters_assignments (separator : String) (b : Bindings) :
    parameters (assignments separator b) = b.values := by
  fun_induction assignments separator b <;> simp_all [parameters, Bindings.values]

@[simp] theorem parameters_conditions (b : Bindings) :
    parameters (conditions b) = b.values := by
  unfold conditions
  split
  · rfl
  · simp [parameters]

end Template
end RowSql
