import RowSql.Fault
import RowSql.Text.Blank

/-!
# Markers

The three ways in which a statement marks the places of its parameters. One marker
stands for one parameter, and parameters are counted from one, from left to right.
-/
namespace RowSql

inductive Marker where
  | percent
  | question
  | dollar
  deriving DecidableEq, Repr

namespace Marker

/-- The mark of the `n`-th parameter. -/
def mark (m : Marker) (n : Nat) : String :=
  match m with
  | percent => "%s"
  | question => "?"
  | dollar => "$" ++ String.ofList (Nat.toDigits 10 n)

def shown : Marker → String
  | percent => "%s"
  | question => "?"
  | dollar => "$n"

/-- The style used when none is asked for. -/
def standard : Marker := percent

/-- Each style goes by its mark or by its name. -/
def named? (s : String) : Option Marker :=
  if s = "%s" ∨ s = "format" then some percent
  else if s = "?" ∨ s = "qmark" then some question
  else if s = "$n" ∨ s = "$1" ∨ s = "dollar" then some dollar
  else none

/-- Blanks around the name do not matter. -/
def parse (s : String) : Except Fault Marker :=
  match named? (trimBlank s) with
  | some m => .ok m
  | none => .error (.misuse (.unknownMarker (trimBlank s)))

end Marker
end RowSql
