import RowSql.Json.Numeral

/-!
# Reading JSON

Text is cut into tokens, and the tokens drive a machine whose stack holds the arrays
and objects that are still open. Nothing may be left open or left over at the end, and
no more than 127 containers may be open at once.
-/
namespace RowSql
namespace Json

inductive Token where
  | beginArray
  | endArray
  | beginObject
  | endObject
  | comma
  | colon
  | text (s : String)
  /-- A document that is neither text nor a container. -/
  | atom (d : Doc)

namespace Token

/-- White space between tokens. -/
def isGap (c : Char) : Bool := c == ' ' || c == '\n' || c == '\t' || c == '\r'

def mark? (c : Char) : Option Token :=
  match c with
  | '[' => some beginArray
  | ']' => some endArray
  | '\x7b' => some beginObject
  | '\x7d' => some endObject
  | ',' => some comma
  | ':' => some colon
  | _ => none

/-- The value of a hexadecimal digit of either case. -/
def hexValue? (c : Char) : Option Nat :=
  if c.isDigit then some (c.toNat - '0'.toNat)
  else if 'a' ≤ c ∧ c ≤ 'f' then some (c.toNat - 'a'.toNat + 10)
  else if 'A' ≤ c ∧ c ≤ 'F' then some (c.toNat - 'A'.toNat + 10)
  else none

def hexUnit? (a b c d : Char) : Option Nat := do
  return (((← hexValue? a) * 16 + (← hexValue? b)) * 16 + (← hexValue? c)) * 16 + (← hexValue? d)

/-- The characters that a backslash stands before. -/
def unescape? (c : Char) : Option Char :=
  match c with
  | '"' => some '"'
  | '\\' => some '\\'
  | '/' => some '/'
  | 'b' => some '\x08'
  | 'f' => some '\x0c'
  | 'n' => some '\n'
  | 'r' => some '\r'
  | 't' => some '\t'
  | _ => none

def isHigh (unit : Nat) : Bool := 0xd800 ≤ unit && unit < 0xdc00
def isLow (unit : Nat) : Bool := 0xdc00 ≤ unit && unit < 0xe000

/-- What a 16-bit unit adds to the text, given the high surrogate before it if there is
one: a character, or a high surrogate that waits for its other half. -/
def unit? (high : Option Nat) (unit : Nat) : Option (Option Nat × List Char) :=
  match high with
  | none =>
    if isHigh unit then some (some unit, [])
    else if isLow unit then none
    else some (none, [Char.ofNat unit])
  | some h =>
    if isLow unit then some (none, [Char.ofNat (0x10000 + (h - 0xd800) * 0x400 + (unit - 0xdc00))])
    else none

/-- The text up to its closing quote, and what follows it. A high surrogate that waits
must be met by a low one at once. -/
def textBody : Option Nat → List Char → Option (List Char × List Char)
  | none, '"' :: rest => some ([], rest)
  | high, '\\' :: 'u' :: a :: b :: c :: d :: rest =>
    match (hexUnit? a b c d).bind (unit? high) with
    | none => none
    | some (later, cs) => (textBody later rest).map fun r => (cs ++ r.1, r.2)
  | none, '\\' :: c :: rest =>
    match unescape? c with
    | none => none
    | some e => (textBody none rest).map fun r => (e :: r.1, r.2)
  | none, c :: rest =>
    if c.toNat < 0x20 ∨ c = '\\' then none
    else (textBody none rest).map fun r => (c :: r.1, r.2)
  | _, _ => none

theorem length_textBody {high : Option Nat} {cs : List Char} {r : List Char × List Char}
    (h : textBody high cs = some r) : r.2.length < cs.length := by
  fun_induction textBody high cs generalizing r with
  | case1 => cases h; simp
  | case3 _ _ _ _ _ _ _ _ _ ih | case5 _ _ _ _ _ ih | case7 _ _ _ _ _ _ ih =>
    obtain ⟨_, hs, rfl⟩ := Option.map_eq_some_iff.1 h
    have := ih hs
    simp only [List.length_cons]
    omega
  | _ => cases h

/-- The characters that numerals are made of. -/
def isNumeralChar (c : Char) : Bool :=
  c.isDigit || c == '-' || c == '+' || c == '.' || c == 'e' || c == 'E'

def word? (cs : List Char) : Option Doc :=
  if cs = "null".toList then some .null
  else if cs = "true".toList then some (.bool true)
  else if cs = "false".toList then some (.bool false)
  else none

theorem length_dropWhile_le (p : Char → Bool) (cs : List Char) :
    (cs.dropWhile p).length ≤ cs.length :=
  (List.dropWhile_sublist p).length_le

/-- Cut a text into tokens. Words and numerals are taken as long as they go on. -/
def scan : List Char → Option (List Token)
  | [] => some []
  | c :: rest =>
    if isGap c then scan rest
    else match mark? c with
    | some t => (scan rest).map (t :: ·)
    | none =>
      if c = '"' then
        match _ : textBody none rest with
        | none => none
        | some (cs, later) => (scan later).map (.text (String.ofList cs) :: ·)
      else if c.isAlpha then
        match word? (c :: rest.takeWhile Char.isAlpha) with
        | none => none
        | some d => (scan (rest.dropWhile Char.isAlpha)).map (.atom d :: ·)
      else
        match Numeral.read? (c :: rest.takeWhile isNumeralChar) with
        | none => none
        | some d => (scan (rest.dropWhile isNumeralChar)).map (.atom d :: ·)
termination_by cs => cs.length
decreasing_by
  all_goals simp only [List.length_cons]
  · omega
  · omega
  · have := length_textBody ‹_›
    simp only at this
    omega
  · have := length_dropWhile_le Char.isAlpha rest
    omega
  · have := length_dropWhile_le isNumeralChar rest
    omega

end Token

/-- A container that is still open: the items before, last one first, or the fields
before and the name of the field that is being read. -/
inductive Frame where
  | array (items : List Doc)
  | object (fields : List (String × Doc)) (key : String)

/-- What may come next, inside the open containers. -/
inductive Stage where
  | value (stack : List Frame)
  | firstItem (stack : List Frame)
  | firstField (stack : List Frame)
  | field (stack : List Frame) (fields : List (String × Doc))
  | colon (stack : List Frame) (fields : List (String × Doc)) (key : String)
  | complete (stack : List Frame) (d : Doc)

namespace Stage

/-- How many containers may be open at once. -/
def depthLimit : Nat := 127

/-- The first token of a document. -/
def start? (stack : List Frame) : Token → Option Stage
  | .text s => some (complete stack (.text s))
  | .atom d => some (complete stack d)
  | .beginArray => if stack.length < depthLimit then some (firstItem stack) else none
  | .beginObject => if stack.length < depthLimit then some (firstField stack) else none
  | _ => none

def step? : Stage → Token → Option Stage
  | value stack, t => start? stack t
  | firstItem stack, .endArray => some (complete stack (.array []))
  | firstItem stack, t => start? (.array [] :: stack) t
  | firstField stack, .endObject => some (complete stack (.object []))
  | firstField stack, .text k => some (colon stack [] k)
  | field stack fields, .text k => some (colon stack fields k)
  | colon stack fields k, .colon => some (value (.object fields k :: stack))
  | complete (.array items :: stack) d, .comma => some (value (.array (d :: items) :: stack))
  | complete (.array items :: stack) d, .endArray =>
    some (complete stack (.array (d :: items).reverse))
  | complete (.object fields k :: stack) d, .comma =>
    some (field stack (Doc.insertField k d fields))
  | complete (.object fields k :: stack) d, .endObject =>
    some (complete stack (.object (Doc.insertField k d fields)))
  | _, _ => none

/-- Run the machine over tokens. -/
def run? : Stage → List Token → Option Stage
  | stage, [] => some stage
  | stage, t :: rest => (stage.step? t).bind fun next => run? next rest

end Stage

/-- Read a text that holds exactly one document. -/
def read? (s : String) : Option Doc :=
  match (Token.scan s.toList).bind (Stage.run? (.value [])) with
  | some (.complete [] d) => some d
  | _ => none

end Json
end RowSql
