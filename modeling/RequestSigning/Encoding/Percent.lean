import RequestSigning.Encoding.Hex
import RequestSigning.Text.Utf8

/-!
# Percent encoding

`encode keep` writes an octet as itself where `keep` holds and as `%XX` elsewhere; `decode` reads
each well-formed `%XX` and leaves every other octet alone.
-/

namespace RequestSigning.Percent

/-- Letters, digits, `-`, `.`, `_` and `~`: the octets no encoding touches. -/
def isUnreserved (b : UInt8) : Bool :=
  (0x41 ≤ b && b ≤ 0x5A) || (0x61 ≤ b && b ≤ 0x7A) || (0x30 ≤ b && b ≤ 0x39) ||
    b == 0x2D || b == 0x2E || b == 0x5F || b == 0x7E

def digit (n : Nat) : Char :=
  if n < 10 then Char.ofNat (48 + n) else Char.ofNat (55 + n)

def encodeByte (keep : UInt8 → Bool) (b : UInt8) : List Char :=
  if keep b then [Char.ofNat b.toNat] else ['%', digit (b.toNat / 16), digit (b.toNat % 16)]

/-- The octets of the text, those outside `keep` written as `%XX`. -/
def encode (keep : UInt8 → Bool) (s : String) : String :=
  String.ofList ((Utf8.encode s).flatMap (encodeByte keep))

/-- The octet that `%` and two digits stand for. -/
def triple? (b h l : UInt8) : Option UInt8 :=
  if b = 0x25 then
    match Hex.value? h, Hex.value? l with
    | some x, some y => some (x * 16 + y)
    | _, _ => none
  else none

/-- Every `%XX` read as its octet; a `%` without two digits stays. -/
def decode : Bytes → Bytes
  | b :: h :: l :: rest =>
    match triple? b h l with
    | some v => v :: decode rest
    | none => b :: decode (h :: l :: rest)
  | bs => bs

end RequestSigning.Percent
