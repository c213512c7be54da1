import RequestSigning.Encoding.Hex
import RequestSigning.Proofs.Bytes
import RequestSigning.Proofs.Text.Utf8

/-!
# Hexadecimal texts

`encode_injective`: different octets are written as different texts.
-/

namespace RequestSigning.Hex

/-- What one octet is written as. -/
def octets (b : UInt8) : Bytes :=
  [UInt8.ofNat (digit (b.toNat / 16)).toNat, UInt8.ofNat (digit (b.toNat % 16)).toNat]

theorem encodeChar_digit : ∀ n < 16,
    String.utf8EncodeChar (digit n) = [UInt8.ofNat (digit n).toNat] := by
  decide

theorem encode_digits (b : UInt8) :
    [digit (b.toNat / 16), digit (b.toNat % 16)].flatMap String.utf8EncodeChar = octets b := by
  have small := b.toNat_lt
  rw [List.flatMap_cons, List.flatMap_singleton, encodeChar_digit _ (by omega),
    encodeChar_digit _ (by omega)]
  rfl

theorem encode_encode (bs : Bytes) : Utf8.encode (encode bs) = bs.flatMap octets := by
  rw [encode, Utf8.encode_ofList, List.flatMap_assoc]
  simp only [encode_digits]

theorem length_encode (bs : Bytes) : (Utf8.encode (encode bs)).length = 2 * bs.length := by
  rw [encode_encode]
  induction bs with
  | nil => rfl
  | cons b rest ih =>
    rw [List.flatMap_cons, List.length_append, ih, octets, List.length_cons, List.length_singleton,
      List.length_cons]
    omega

theorem octets_value? : ∀ b : UInt8, (octets b).map value? = [some (b / 16), some (b % 16)] :=
  Bytes.forall_octet (by decide +kernel)

theorem octets_injective {a b : UInt8} (same : octets a = octets b) : a = b := by
  have values : [some (a / 16), some (a % 16)] = [some (b / 16), some (b % 16)] := by
    rw [← octets_value?, ← octets_value?, same]
  have high : (a / 16).toNat = (b / 16).toNat := by simp_all
  have low : (a % 16).toNat = (b % 16).toNat := by simp_all
  have sixteen : (16 : UInt8).toNat = 16 := rfl
  rw [UInt8.toNat_div, UInt8.toNat_div, sixteen] at high
  rw [UInt8.toNat_mod, UInt8.toNat_mod, sixteen] at low
  apply UInt8.toNat_inj.mp
  omega

theorem encode_injective {xs ys : Bytes} (same : encode xs = encode ys) : xs = ys := by
  have written : xs.flatMap octets = ys.flatMap octets := by
    rw [← encode_encode, ← encode_encode, same]
  clear same
  induction xs generalizing ys with
  | nil =>
    cases ys with
    | nil => rfl
    | cons y ys => cases written
  | cons x xs ih =>
    cases ys with
    | nil => cases written
    | cons y ys =>
      rw [List.flatMap_cons, List.flatMap_cons] at written
      obtain ⟨first, later⟩ := List.append_inj written rfl
      rw [octets_injective first, ih later]

end RequestSigning.Hex
