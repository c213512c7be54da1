import RequestSigning.Decimal.Dyadic

/-!
# Cube roots

The binary floating-point number nearest to a cube root.  The digits of the root are found in
whole numbers: the radicand is scaled by a power of eight so that its root has 53 bits.
-/

namespace RequestSigning.Decimal

/-- Settle the lowest `bits` bits of a root from the highest down: a bit is set when the cube
stays within `n`. -/
def refineCubeRoot (n : Nat) : (bits root : Nat) → Nat
  | 0, root => root
  | bit + 1, root =>
    let next := root + Nat.pow 2 bit
    refineCubeRoot n bit (if next * next * next ≤ n then next else root)

theorem refineCubeRoot_le (n bits root : Nat) (h : root * root * root ≤ n) :
    refineCubeRoot n bits root * refineCubeRoot n bits root * refineCubeRoot n bits root ≤ n := by
  induction bits generalizing root with
  | zero => exact h
  | succ bit ih =>
    unfold refineCubeRoot
    apply ih
    split
    · assumption
    · exact h

/-- The bits left are enough to reach the root. -/
theorem lt_refineCubeRoot (n bits root : Nat)
    (h : n < (root + Nat.pow 2 bits) * (root + Nat.pow 2 bits) * (root + Nat.pow 2 bits)) :
    n < (refineCubeRoot n bits root + 1) * (refineCubeRoot n bits root + 1) *
      (refineCubeRoot n bits root + 1) := by
  induction bits generalizing root with
  | zero => exact h
  | succ bit ih =>
    unfold refineCubeRoot
    apply ih
    have double : Nat.pow 2 (bit + 1) = Nat.pow 2 bit + Nat.pow 2 bit := Nat.mul_two _
    split
    · rwa [Nat.add_assoc, ← double]
    · omega

/-- The greatest number whose cube is at most `n`. -/
def floorCubeRoot (n : Nat) : Nat :=
  refineCubeRoot n (n.log2 / 3 + 1) 0

theorem floorCubeRoot_le (n : Nat) : floorCubeRoot n * floorCubeRoot n * floorCubeRoot n ≤ n :=
  refineCubeRoot_le n _ 0 (Nat.zero_le n)

theorem lt_floorCubeRoot (n : Nat) :
    n < (floorCubeRoot n + 1) * (floorCubeRoot n + 1) * (floorCubeRoot n + 1) := by
  apply lt_refineCubeRoot
  have add (a b : Nat) : Nat.pow 2 (a + b) = Nat.pow 2 a * Nat.pow 2 b := Nat.pow_add 2 a b
  rw [Nat.zero_add, ← add, ← add]
  calc
    n < Nat.pow 2 (n.log2 + 1) := Nat.lt_log2_self
    _ ≤ Nat.pow 2 (n.log2 / 3 + 1 + (n.log2 / 3 + 1) + (n.log2 / 3 + 1)) :=
      Nat.pow_le_pow_right (by decide) (by omega)

/-- The number nearest to the cube root of `n`.  There is no half to decide: `8 · n` is even and
the cube of `2 · root + 1` is odd. -/
def nearestCubeRoot (n : Nat) : Nat :=
  let root := floorCubeRoot n
  let double := 2 * root + 1
  if double * double * double < 8 * n then root + 1 else root

/-- The cube root of a number that is not zero.  The radicand is `scaled · 2^(3 · exponent)`,
where `scaled` has 157 to 159 bits.  A root that rounds up to `2^53` carries into the exponent
field. -/
def Dyadic.cubeRoot (d : Dyadic) : Float :=
  let bits : Int := d.mantissa.log2 + 1 + d.exponent
  let exponent := Int.fdiv (bits - 157) 3
  let scaled := d.mantissa * Nat.pow 2 (d.exponent - 3 * exponent).toNat
  let sign := if d.negative then Nat.pow 2 63 else 0
  let field := (exponent + 1074).toNat
  .ofBits (.ofNat (sign + field * Nat.pow 2 52 + nearestCubeRoot scaled))

/-- The number nearest to the cube root.  Zeros, infinities and what is not a number are their own
roots. -/
def cubeRoot (x : Float) : Float :=
  match Dyadic.ofFloat? x with
  | some d => if d.mantissa = 0 then x else d.cubeRoot
  | none => x

end RequestSigning.Decimal
