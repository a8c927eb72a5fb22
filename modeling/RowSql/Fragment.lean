import RowSql.Fault

/-!
# Fragments of definitions

A fragment renders to text, and rendering to nothing means that it is absent. Absent
fragments are dropped when fragments are joined, so no joint is left doubled. Double
quotes are never escaped: a name that holds one is refused.
-/
namespace RowSql

inductive Fragment where
  | text (s : String)
  | parens (tokens : List String)
  | quoted (name : String)
  /-- A lead word before a body, or nothing when the body is absent. -/
  | led (lead : String) (body : Fragment)
  | onlyIf (condition : Bool) (label : String)
  deriving DecidableEq, Repr

namespace Fragment

def absent : Fragment := text ""

def parenthesized (tokens : List String) : String := "(" ++ ",".intercalate tokens ++ ")"

def doubleQuote : String := "\""

def quoteName (name : String) : Except Fault String :=
  if '"' ∈ name.toList then .error (.unquotableIdentifier name)
  else .ok (doubleQuote ++ name ++ doubleQuote)

def render : Fragment → Except Fault String
  | text s => .ok s
  | parens tokens => .ok (parenthesized tokens)
  | quoted name => quoteName name
  | led lead body => do
    let inner ← body.render
    return if inner = "" then "" else lead ++ " " ++ inner
  | onlyIf condition label => .ok (if condition then label else "")

/-- The renderings in order; the first failure wins. -/
def renderAll (fragments : List Fragment) : Except Fault (List String) :=
  fragments.mapM render

/-- What has been written, and one fragment more; the delimiter stands between them unless one
of the two is absent. -/
def extend (delim out : String) (fragment : Fragment) : Except Fault String := do
  let text ← fragment.render
  return if text = "" then out else if out = "" then text else out ++ delim ++ text

/-- The fragments in order, with `delim` between those that are not absent. -/
def join (delim : String) (fragments : List Fragment) : Except Fault String :=
  fragments.foldlM (extend delim) ""

end Fragment
end RowSql
