import RowSql.Fault

/-!
# Names

Names go into statements without quotes or escapes, so they are restricted to plain
identifiers. Labels of an enumeration stand between single quotes. A table takes its
name from the words of a schema's name.
-/
namespace RowSql

namespace Name

/-- A character that can begin a plain identifier. -/
def isLead (c : Char) : Bool := c == '_' || c.isAlpha

/-- A character that can go on a plain identifier. -/
def isFollower (c : Char) : Bool := c == '_' || c.isAlphanum

def isPlainChars : List Char → Bool
  | [] => false
  | c :: rest => isLead c && rest.all isFollower

/-- An ASCII letter or underscore, then ASCII letters, digits and underscores. -/
def IsPlain (s : String) : Prop := isPlainChars s.toList = true

instance : DecidablePred IsPlain := fun _ => inferInstanceAs (Decidable (_ = true))

/-- Why `s` is no plain identifier, unless it is one. -/
def fault? (s : String) : Option Fault :=
  if IsPlain s then none else some (.invalidIdentifier s)

@[simp] theorem fault?_eq_none {s : String} : fault? s = none ↔ IsPlain s := by
  simp [fault?]

end Name

namespace Label

/-- Text that can stand between single quotes: not empty, with neither a single quote
nor a NUL in it. -/
def IsQuotable (s : String) : Prop :=
  s ≠ "" ∧ s.toList.all (fun c => c != '\x27' && c != '\x00') = true

instance : DecidablePred IsQuotable := fun _ => inferInstanceAs (Decidable (_ ∧ _))

def fault? (s : String) : Option Fault :=
  if IsQuotable s then none else some (.invalidIdentifier s)

@[simp] theorem fault?_eq_none {s : String} : fault? s = none ↔ IsQuotable s := by
  simp [fault?]

end Label

namespace TableName

/-- A character that goes on the word it follows. -/
def isTail (c : Char) : Bool := c.isLower || c.isDigit

/-- The run of tails at the front, and the words after it. -/
def split : List Char → List Char × List (List Char)
  | [] => ([], [])
  | c :: rest =>
    let (run, later) := split rest
    if isTail c then (c :: run, later)
    else if c.isUpper then ([], (c :: run) :: later)
    else ([], if run = [] then later else run :: later)

/-- A capital begins a word of its own, lower case letters and digits go on the word
before them, and anything else separates words. -/
def words (cs : List Char) : List (List Char) :=
  let (run, later) := split cs
  if run = [] then later else run :: later

end TableName

/-- The words of a schema's name in lower case, joined with underscores. -/
def tableName (schemaName : String) : String :=
  "_".intercalate
    ((TableName.words schemaName.toList).map fun word => String.ofList (word.map Char.toLower))

end RowSql
