import RowSql.Number.Whole
import RowSql.Number.Written

/-!
# JSON documents

A document and its compact text. Whole numbers and floating point numbers are told
apart. Text is escaped no more than it must be: quotes, backslashes and control
characters.
-/
namespace RowSql
namespace Json

inductive Doc where
  | null
  | bool (b : Bool)
  | whole (i : Int)
  | float (x : Binary64)
  | text (s : String)
  | array (items : List Doc)
  | object (fields : List (String × Doc))
  deriving Repr

/-- Positional from `1e-5` up to `1e16`, with `.0` after a whole number and a signed
exponent otherwise. What is no finite number has no text of its own. -/
def numberStyle : NumberStyle where
  positional := some (-5, 16)
  pointZero := true
  signedExponent := true
  tie := .even
  nan := "null"
  infinity := "null"
  negativeInfinity := "null"

def escapeChar (c : Char) : List Char :=
  match c with
  | '"' => ['\\', '"']
  | '\\' => ['\\', '\\']
  | '\x08' => ['\\', 'b']
  | '\x0c' => ['\\', 'f']
  | '\n' => ['\\', 'n']
  | '\r' => ['\\', 'r']
  | '\t' => ['\\', 't']
  | c =>
    if c.toNat < 0x20 then
      ['\\', 'u', '0', '0', Nat.digitChar (c.toNat / 16), Nat.digitChar (c.toNat % 16)]
    else [c]

def escape (s : String) : String :=
  String.ofList ('"' :: (s.toList.flatMap escapeChar ++ ['"']))

namespace Doc

mutual

/-- Compact text, without a blank between tokens. -/
def write : Doc → String
  | null => "null"
  | bool b => if b then "true" else "false"
  | whole i => wholeText i
  | float x => numberStyle.write x
  | text s => escape s
  | array items => "[" ++ ",".intercalate (writeAll items) ++ "]"
  | object fields => "\x7b" ++ ",".intercalate (writeFields fields) ++ "\x7d"

def writeAll : List Doc → List String
  | [] => []
  | d :: rest => d.write :: writeAll rest

def writeFields : List (String × Doc) → List String
  | [] => []
  | f :: rest => writeField f :: writeFields rest

def writeField : String × Doc → String
  | (k, d) => escape k ++ ":" ++ d.write

end

/-- Put a field into its place in the order of names; a later one of the same name
replaces it. -/
def insertField (k : String) (d : Doc) : List (String × Doc) → List (String × Doc)
  | [] => [(k, d)]
  | (l, e) :: rest =>
    if k = l then (k, d) :: rest
    else if k < l then (k, d) :: (l, e) :: rest
    else (l, e) :: insertField k d rest

end Doc
end Json
end RowSql
