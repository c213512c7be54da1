import RequestSigning.Bytes

/-!
# ASCII text and octets
-/

namespace RequestSigning.Ascii

/-- Each octet as the character of that number. -/
def text (bs : Bytes) : String := String.ofList (bs.map fun b => Char.ofNat b.toNat)

def isAlphanumeric (b : UInt8) : Bool :=
  (0x41 ≤ b && b ≤ 0x5A) || (0x61 ≤ b && b ≤ 0x7A) || (0x30 ≤ b && b ≤ 0x39)

/-- The small letter of a capital one; any other octet stays. -/
def lower (b : UInt8) : UInt8 := if 0x41 ≤ b ∧ b ≤ 0x5A then b + 0x20 else b

def isDigit (b : UInt8) : Bool := 0x30 ≤ b && b ≤ 0x39

/-- The number that decimal digits stand for, or `bound` if that is smaller. -/
def valueUpTo (bound : Nat) (digits : Bytes) : Nat :=
  digits.foldl (fun n b => Nat.min bound (n * 10 + (b.toNat - 0x30))) 0

/-- A number below `bound` in decimal digits, with an optional plus sign. -/
def unsigned? (bound : Nat) (bs : Bytes) : Option Nat :=
  let digits := if bs.head? = some 0x2B then bs.tail else bs
  let value := valueUpTo bound digits
  if digits ≠ [] ∧ digits.all isDigit ∧ value < bound then some value else none

end RequestSigning.Ascii
