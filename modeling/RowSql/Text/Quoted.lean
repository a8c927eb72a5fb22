import RowSql.Text.Printable

/-!
# Quoted text

Text between double quotes, with every character that could not be read back by eye
written as an escape. A single quote needs none.
-/
namespace RowSql

/-- Lower case hexadecimal digits, without leading zeros. -/
def hexDigits (n : Nat) : List Char := Nat.toDigits 16 n

def quoteChar (c : Char) : List Char :=
  match c with
  | '\x00' => ['\\', '0']
  | '\t' => ['\\', 't']
  | '\n' => ['\\', 'n']
  | '\r' => ['\\', 'r']
  | '"' => ['\\', '"']
  | '\\' => ['\\', '\\']
  | c =>
    if isPrintable c && !extendsGrapheme c then [c]
    else ['\\', 'u', '\x7b'] ++ hexDigits c.toNat ++ ['\x7d']

def quoted (s : String) : String :=
  String.ofList ('"' :: (s.toList.flatMap quoteChar ++ ['"']))

/-- A bracketed list, the entries already written. -/
def bracketed (entries : List String) : String :=
  "[" ++ ", ".intercalate entries ++ "]"

end RowSql
