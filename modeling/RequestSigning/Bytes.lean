/-!
# Octet strings

Octets as plain lists, with the two cuts that the formats of this library are made of.
`splitWhen_ne_nil`: splitting always leaves at least one piece.
-/

namespace RequestSigning

abbrev Bytes := List UInt8

namespace Bytes

/-- The pieces between the octets that satisfy `p`. -/
def splitWhen (p : UInt8 → Bool) : Bytes → List Bytes
  | [] => [[]]
  | b :: rest =>
    if p b then [] :: splitWhen p rest
    else
      match splitWhen p rest with
      | piece :: pieces => (b :: piece) :: pieces
      | [] => [[b]]

theorem splitWhen_ne_nil (p : UInt8 → Bool) (bs : Bytes) : splitWhen p bs ≠ [] := by
  cases bs with
  | nil => simp [splitWhen]
  | cons b rest =>
    rw [splitWhen]
    split
    · simp
    · split <;> simp

/-- What stands before the first `sep`, and what stands after it if there is one. -/
def cut (sep : UInt8) : Bytes → Bytes × Option Bytes
  | [] => ([], none)
  | b :: rest => if b = sep then ([], some rest) else (b :: (cut sep rest).1, (cut sep rest).2)

/-- The pieces in order, with one `sep` between neighbours. -/
def join (sep : UInt8) : List Bytes → Bytes
  | [] => []
  | [piece] => piece
  | piece :: pieces => piece ++ sep :: join sep pieces

end Bytes

end RequestSigning
