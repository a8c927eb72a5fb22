import RowSql.Json.Reader
import RowSql.Row

/-!
# JSON and values

A value has a document, and so has a row: the object of its bound columns. There are two
ways back. `ofDoc` takes every document and keeps an object as its text; `ofDoc?` tries
the shapes of values one after the other and takes no object at all.
-/
namespace RowSql

namespace Value

mutual

def toDoc : Value → Json.Doc
  | null => .null
  | bool b => .bool b
  | int i => .whole i.toInt
  | float x => .float x
  | text s => .text s
  | array items => .array (toDocs items)

def toDocs : List Value → List Json.Doc
  | [] => []
  | v :: rest => v.toDoc :: toDocs rest

end

/-- A whole number as an integer, when it is in the range of integers. -/
def wholeInt? (i : Int) : Option Int64 :=
  if h : Int64.minValue.toInt ≤ i ∧ i ≤ Int64.maxValue.toInt then
    some (Int64.ofIntLE i h.1 h.2)
  else none

mutual

/-- Whole numbers beyond the range of integers become floating point numbers. -/
def ofDoc : Json.Doc → Value
  | .null => null
  | .bool b => bool b
  | .whole i =>
    match wholeInt? i with
    | some n => int n
    | none => float (Binary64.ofInt i)
  | .float x => float x
  | .text s => text s
  | .array items => array (ofDocs items)
  | .object fields => text (Json.Doc.object fields).write

def ofDocs : List Json.Doc → List Value
  | [] => []
  | d :: rest => ofDoc d :: ofDocs rest

end

def nullShape? : Json.Doc → Option Value
  | .null => some null
  | _ => none

def boolShape? : Json.Doc → Option Value
  | .bool b => some (bool b)
  | _ => none

def intShape? : Json.Doc → Option Value
  | .whole i => (wholeInt? i).map int
  | _ => none

/-- Every number can be read as a floating point number. -/
def floatShape? : Json.Doc → Option Value
  | .whole i => some (float (Binary64.ofInt i))
  | .float x => some (float x)
  | _ => none

def textShape? : Json.Doc → Option Value
  | .text s => some (text s)
  | _ => none

/-- The first shape of a scalar that fits. -/
def scalarShape? (d : Json.Doc) : Option Value :=
  ((((nullShape? d).or (boolShape? d)).or (intShape? d)).or (floatShape? d)).or (textShape? d)

mutual

/-- The first shape that fits, arrays coming last. -/
def ofDoc? : Json.Doc → Option Value
  | .array items => (ofDocs? items).map array
  | d => scalarShape? d

def ofDocs? : List Json.Doc → Option (List Value)
  | [] => some []
  | d :: rest => (ofDoc? d).bind fun v => (ofDocs? rest).map (v :: ·)

end

/-- Compact JSON text. -/
def json (v : Value) : String := v.toDoc.write

end Value

namespace Row

/-- The bound columns as an object, in declaration order. -/
def toDoc (r : Row) : Json.Doc := .object (r.bound.map fun p => (p.1, p.2.toDoc))

def json (r : Row) : String := r.toDoc.write

end Row
end RowSql
