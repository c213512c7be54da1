import RequestSigning.Key.Cache
import RequestSigning.Proofs.Encoding.Hex
import RequestSigning.Proofs.Time.Day

/-!
# Keys and their slots

`slot_eq_iff`: two calls share a slot when secret and day are the same and region and service make
the same text.  The key follows from secret, day, region and service.
-/

namespace RequestSigning

/-- What a signing key is asked for with. -/
structure KeyCall where
  secret : String
  time : Instant
  region : String
  service : String

namespace KeyCall

/-- The key that is derived for the call. -/
def key (x : KeyCall) : Bytes := signingKey x.secret x.time x.region x.service

/-- The slot that the call looks into. -/
def slot (x : KeyCall) : Slot := Slot.of x.secret x.time x.region x.service

theorem key_eq {x y : KeyCall} (secret : x.secret = y.secret) (day : x.time.days = y.time.days)
    (region : x.region = y.region) (service : x.service = y.service) : x.key = y.key := by
  have date : x.time.compactDate = y.time.compactDate := Instant.compactDate_eq_iff.mpr day
  rw [key, key, signingKey, signingKey, secret, date, region, service]

theorem hyphen_not_mem (bs : Bytes) : 0x2D ∉ Utf8.encode (Hex.encode bs) := by
  have digits : ∀ b : UInt8, 0x2D ∉ Hex.octets b := Bytes.forall_octet (by decide +kernel)
  rw [Hex.encode_encode]
  intro member
  obtain ⟨b, _, written⟩ := List.mem_flatMap.mp member
  exact digits b written

/-- Whatever region and service are, the digest ends before the first hyphen. -/
theorem cut_scope (x : KeyCall) : Bytes.cut 0x2D (Utf8.encode x.slot.scope) =
    (Utf8.encode (hexSha256 (Utf8.encode x.secret)),
      some (Utf8.encode (x.region ++ "-" ++ x.service))) := by
  have hyphen : Utf8.encode "-" = [0x2D] := rfl
  have octets : Utf8.encode x.slot.scope = Utf8.encode (hexSha256 (Utf8.encode x.secret)) ++
      0x2D :: Utf8.encode (x.region ++ "-" ++ x.service) := by
    simp only [slot, Slot.of, Utf8.encode_append, hyphen, List.append_assoc, List.cons_append,
      List.nil_append]
  rw [octets, hexSha256, Bytes.cut_append (hyphen_not_mem _)]

theorem slot_eq_iff {x y : KeyCall} : x.slot = y.slot ↔
    Sha256.digest (Utf8.encode x.secret) = Sha256.digest (Utf8.encode y.secret) ∧
      x.region ++ "-" ++ x.service = y.region ++ "-" ++ y.service ∧ x.time.days = y.time.days := by
  constructor
  · intro same
    have cuts := cut_scope x
    rw [same, cut_scope y, Prod.mk.injEq, Option.some.injEq] at cuts
    obtain ⟨digests, names⟩ := cuts
    exact ⟨(Hex.encode_injective (Utf8.encode_injective digests)).symm,
      (Utf8.encode_injective names).symm, congrArg Slot.day same⟩
  · rintro ⟨digests, names, day⟩
    have scopes : x.slot.scope = y.slot.scope := by
      simp only [slot, Slot.of, hexSha256, digests, String.append_assoc] at names ⊢
      rw [names]
    rw [slot, slot, Slot.of, Slot.of, Slot.mk.injEq]
    exact ⟨scopes, day⟩

end KeyCall

end RequestSigning
