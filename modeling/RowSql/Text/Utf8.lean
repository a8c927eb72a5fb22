/-!
# UTF-8

Bytes of a text, and the text of bytes. Where bytes are no text, the fault says how far
they were well formed and how long the longest start of a character is that stands
there; a character cut off by the end of the bytes is told apart.
-/
namespace RowSql

inductive Utf8Fault where
  /-- The bytes at `index` cannot go on as a character after `length` of them. -/
  | invalid (index length : Nat)
  /-- The bytes end inside the character that starts at `index`. -/
  | incomplete (index : Nat)
  deriving DecidableEq, Repr

namespace Utf8

def bytes (s : String) : List UInt8 := s.toByteArray.data.toList

/-- How many bytes follow a first byte, and the range of the second one. Overlong forms,
surrogates and numbers past the last code point are excluded by that range. -/
def following? (first : UInt8) : Option (Nat × UInt8 × UInt8) :=
  if first < 0x80 then some (0, 0x80, 0xbf)
  else if first < 0xc2 then none
  else if first < 0xe0 then some (1, 0x80, 0xbf)
  else if first = 0xe0 then some (2, 0xa0, 0xbf)
  else if first = 0xed then some (2, 0x80, 0x9f)
  else if first < 0xf0 then some (2, 0x80, 0xbf)
  else if first = 0xf0 then some (3, 0x90, 0xbf)
  else if first < 0xf4 then some (3, 0x80, 0xbf)
  else if first = 0xf4 then some (3, 0x80, 0x8f)
  else none

/-- How many of at most `count` bytes go on a character, the first of them in the range
from `low` to `high`. -/
def fitting : Nat → UInt8 → UInt8 → List UInt8 → Nat
  | 0, _, _, _ => 0
  | _, _, _, [] => 0
  | count + 1, low, high, b :: rest =>
    if low ≤ b ∧ b ≤ high then fitting count 0x80 0xbf rest + 1 else 0

/-- The first place, counted from `index`, where the bytes are no text. -/
def fault? (index : Nat) : List UInt8 → Option Utf8Fault
  | [] => none
  | first :: rest =>
    match following? first with
    | none => some (.invalid index 1)
    | some (count, low, high) =>
      let fit := fitting count low high rest
      if fit = count then fault? (index + 1 + count) (rest.drop count)
      else if fit = rest.length then some (.incomplete index)
      else some (.invalid index (fit + 1))
termination_by bs => bs.length
decreasing_by simp only [List.length_drop, List.length_cons]; omega

def decode (bs : List UInt8) : Except Utf8Fault String :=
  match String.fromUTF8? ⟨bs.toArray⟩ with
  | some s => .ok s
  | none => .error ((fault? 0 bs).getD (.incomplete bs.length))

theorem decode_bytes (s : String) : decode (bytes s) = .ok s := by
  have h : (⟨(bytes s).toArray⟩ : ByteArray) = s.toByteArray := by simp [bytes]
  simp [decode, h, String.fromUTF8?, s.isValidUTF8, String.fromUTF8]

end Utf8

namespace Utf8Fault

def message : Utf8Fault → String
  | invalid index length =>
    s!"invalid utf-8 sequence of {length} bytes from index {index}"
  | incomplete index => s!"incomplete utf-8 byte sequence from index {index}"

end Utf8Fault
end RowSql
