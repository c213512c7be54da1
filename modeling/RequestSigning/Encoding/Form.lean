import RequestSigning.Encoding.Percent

/-!
# Form encoding

A query as a list of pairs: pieces between `&`, cut at the first `=`, with `+` for a space and
`%XX` for an octet.
-/

namespace RequestSigning.Form

def plusToSpace (b : UInt8) : UInt8 := if b = 0x2B then 0x20 else b

def decodeBytes (bs : Bytes) : Bytes := Percent.decode (bs.map plusToSpace)

/-- The nonempty pieces of a query, each cut into the octets of its key and its value. -/
def rawPairs (query : Bytes) : List (Bytes × Bytes) :=
  ((Bytes.splitWhen (· == 0x26) query).filter (· ≠ [])).map fun piece =>
    (decodeBytes (Bytes.cut 0x3D piece).1, decodeBytes ((Bytes.cut 0x3D piece).2.getD []))

def parse (query : Bytes) : List (String × String) :=
  (rawPairs query).map fun pair => (Utf8.decodeLossy pair.1, Utf8.decodeLossy pair.2)

end RequestSigning.Form
