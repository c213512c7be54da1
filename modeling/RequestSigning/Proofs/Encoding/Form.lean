import RequestSigning.Encoding.Form
import RequestSigning.Proofs.Encoding.Percent

/-!
# Reading back form encoding

`rawPairs_join`: pieces without `&` are read one by one, and the empty ones are passed over.
-/

namespace RequestSigning.Form

/-- The octets of an encoded text that stand for themselves in a query. -/
theorem plusToSpace_of_isEncodedByte : ∀ b : UInt8,
    Percent.isEncodedByte b = true → plusToSpace b = b :=
  Bytes.forall_octet (by decide +kernel)

theorem decodeBytes_encode (s : String) :
    decodeBytes (Utf8.encode (Percent.encode Percent.isUnreserved s)) = Utf8.encode s := by
  have plain : (Utf8.encode (Percent.encode Percent.isUnreserved s)).map plusToSpace =
      Utf8.encode (Percent.encode Percent.isUnreserved s) := by
    refine (List.map_congr_left (g := id) ?_).trans (List.map_id _)
    intro b member
    exact plusToSpace_of_isEncodedByte b (Percent.encode_isEncodedByte s b member)
  rw [decodeBytes, plain, Percent.decode_encode]

/-- The octets of the key and the value that a piece is read as. -/
def rawPairOf (piece : Bytes) : Bytes × Bytes :=
  (decodeBytes (Bytes.cut 0x3D piece).1, decodeBytes ((Bytes.cut 0x3D piece).2.getD []))

theorem rawPairs_join {pieces : List Bytes} (clean : ∀ piece ∈ pieces, 0x26 ∉ piece) :
    rawPairs (Bytes.join 0x26 pieces) = (pieces.filter (· ≠ [])).map rawPairOf := by
  rw [rawPairs]
  cases pieces with
  | nil => rfl
  | cons piece later =>
    rw [Bytes.splitWhen_join (List.cons_ne_nil _ _) clean]
    rfl

end RequestSigning.Form
