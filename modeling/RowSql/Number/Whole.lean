/-!
# Written whole numbers
-/
namespace RowSql

/-- Decimal digits, after a minus sign when negative. -/
def wholeChars (i : Int) : List Char :=
  if i < 0 then '-' :: Nat.toDigits 10 i.natAbs else Nat.toDigits 10 i.natAbs

def wholeText (i : Int) : String := String.ofList (wholeChars i)

@[simp] theorem toList_wholeText (i : Int) : (wholeText i).toList = wholeChars i := by
  simp [wholeText]

end RowSql
