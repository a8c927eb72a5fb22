import RowSql.Value.Written

/-!
# Faults

Why a declaration, a row, a statement or a result is refused. Each constructor is a
cause; `message` is its wording. Apart from what a cursor reports, all of them are
mistakes of the program that declares or asks.
-/
namespace RowSql

/-- Uses that no single name is to blame for. -/
inductive Misuse where
  | enumWithoutLabels (schema field : String)
  | repeatedLabel (schema field label : String)
  | emptyProjection
  | emptyAssignment
  | joinOfFewerThanTwo
  | joinWithoutKey (schema : String)
  | partialProjection
  | unknownMarker (text : String)
  | note (text : String)
  deriving DecidableEq, Repr

inductive Fault where
  | duplicateTable (table origin : String)
  | duplicateField (schema field : String)
  | unknownField (schema field : String)
  | undeclaredField (schema field : String)
  | tooManyValues (schema : String) (given declared : Nat)
  | alreadyBound (field : String) (position : Nat)
  | keyMismatch (key : List String) (values : List Value)
  | joinKeyMismatch (left right : String)
  | invalidIdentifier (text : String)
  | unquotableIdentifier (text : String)
  | narrowTuple (expected actual : Nat)
  | misalignedTuple (expected actual : Nat)
  | misuse (cause : Misuse)
  | undecodable (column : Nat) (reason : String)
  | cursor (reason : String)
  deriving DecidableEq, Repr

namespace Misuse

def message : Misuse → String
  | enumWithoutLabels schema field =>
    s!"enum field '{field}' of {schema} declares no labels"
  | repeatedLabel schema field label =>
    s!"enum field '{field}' of {schema} repeats label '{label}'"
  | emptyProjection => "select_eq needs at least one field"
  | emptyAssignment => "update_eq requires at least one SET field"
  | joinOfFewerThanTwo => "join needs at least two schemas"
  | joinWithoutKey schema => s!"cannot join {schema}: it has no primary key"
  | partialProjection =>
    "select_models() unpacks rows positionally; don't pass an explicit field list"
  | unknownMarker text => s!"unknown placeholder style '{text}'"
  | note text => text

end Misuse

namespace Fault

def message : Fault → String
  | duplicateTable table origin =>
    s!"Duplicate table '{table}' (first declared in {origin})"
  | duplicateField schema field => s!"Duplicate field '{field}' in schema {schema}"
  | unknownField schema field => s!"Unknown field '{field}' on schema {schema}"
  | undeclaredField schema field => s!"Cannot set undeclared field '{field}' on {schema}"
  | tooManyValues schema given declared =>
    s!"Too many positional values: got {given}, {schema} declares {declared} fields"
  | alreadyBound field position =>
    s!"Field '{field}' already specified in position {position}"
  | keyMismatch key values =>
    "Primary key length mismatch: declared " ++ bracketed (key.map quoted) ++
      ", got " ++ bracketed (values.map Value.inspect)
  | joinKeyMismatch left right => s!"Cannot join {left} and {right}: primary keys differ"
  | invalidIdentifier text => "Invalid identifier " ++ quoted text
  | unquotableIdentifier text => "Don't know how to quote identifier " ++ quoted text
  | narrowTuple expected actual =>
    s!"Result row has {actual} columns, expected at least {expected}"
  | misalignedTuple _ _ => "joined row width does not match the schemas' field counts"
  | misuse cause => "Usage error: " ++ cause.message
  | undecodable column reason => s!"Decode error on column {column}: {reason}"
  | cursor reason => "Cursor error: " ++ reason

def isDuplicateTable : Fault → Bool
  | duplicateTable .. => true
  | _ => false

def isUnknownField : Fault → Bool
  | unknownField .. => true
  | _ => false

def isMisuse : Fault → Bool
  | misuse _ => true
  | _ => false

end Fault
end RowSql
