import RequestSigning.Decimal.Dyadic

/-!
# Decimals of a fixed number of places

The decimal nearest to the exact binary value; a half goes to the even neighbour.
-/

namespace RequestSigning.Decimal

/-- `n` in decimal digits, with zeros in front to at least `width` digits. -/
def padded (width n : Nat) : String :=
  let digits := Nat.toDigits 10 n
  String.ofList (List.replicate (width - digits.length) '0' ++ digits)

/-- `n / 10^places` with its point, no point where there are no places. -/
def placed (places n : Nat) : String :=
  if places = 0 then toString n
  else toString (n / Nat.pow 10 places) ++ "." ++ padded places (n % Nat.pow 10 places)

def fixed (places : Nat) (x : Float) : String :=
  match Dyadic.ofFloat? x with
  | none => nonFinite x
  | some d =>
    (if d.negative then "-" else "") ++
      placed places (roundHalfEven (d.ratio.1 * Nat.pow 10 places) d.ratio.2)

end RequestSigning.Decimal
