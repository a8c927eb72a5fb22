import RowSql.Number.Whole
import RowSql.Number.Written
import RowSql.Text.Quoted
import RowSql.Value

/-!
# Written values

`display` is the text meant for reading, `inspect` the one that shows the shape of a
value and quotes its text.
-/
namespace RowSql
namespace Value

/-- Never an exponent, and no point after a whole number. -/
def displayStyle : NumberStyle where
  positional := none
  pointZero := false
  signedExponent := false
  tie := .up
  nan := "NaN"
  infinity := "inf"
  negativeInfinity := "-inf"

/-- Positional from `1e-4` up to `1e16`, with `.0` after a whole number. -/
def inspectStyle : NumberStyle where
  positional := some (-4, 16)
  pointZero := true
  signedExponent := false
  tie := .up
  nan := "NaN"
  infinity := "inf"
  negativeInfinity := "-inf"

def boolText (b : Bool) : String := if b then "true" else "false"

mutual

def display : Value → String
  | null => "NULL"
  | bool b => boolText b
  | int i => wholeText i.toInt
  | float x => displayStyle.write x
  | text s => s
  | array items => bracketed (displayAll items)

def displayAll : List Value → List String
  | [] => []
  | v :: vs => display v :: displayAll vs

end

mutual

def inspect : Value → String
  | null => "Null"
  | bool b => "Bool(" ++ boolText b ++ ")"
  | int i => "Int(" ++ wholeText i.toInt ++ ")"
  | float x => "Float(" ++ inspectStyle.write x ++ ")"
  | text s => "Text(" ++ quoted s ++ ")"
  | array items => "Array(" ++ bracketed (inspectAll items) ++ ")"

def inspectAll : List Value → List String
  | [] => []
  | v :: vs => inspect v :: inspectAll vs

end

end Value

namespace Cell

def display : Cell → String
  | none => "Missing"
  | some v => v.display

def inspect : Cell → String
  | none => "Missing"
  | some v => "Set(" ++ v.inspect ++ ")"

end Cell
end RowSql
