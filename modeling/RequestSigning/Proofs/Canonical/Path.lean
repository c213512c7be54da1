import RequestSigning.Proofs.Canonical.Request

/-!
# Canonical paths

Encoding a path once keeps the escapes it has and encodes what stands bare.  So
`decode_path_once`: the path names what it named before, and doing it again changes nothing.
Encoding it twice encodes the `%` of every escape as well; `decode_path_twice`: reading the path
undoes that.
-/

namespace RequestSigning.Canonical

theorem path_once {p : String} (filled : p ≠ "") : path p false = Percent.encode keepsPath p := by
  simp [path, filled]

theorem path_ne_empty (p : String) (double : Bool) : path p double ≠ "" := by
  unfold path
  split
  · decide
  · rename_i filled
    have once := mt (Percent.encode_eq_empty ascii_of_keepsPath).mp filled
    cases double
    · exact once
    · exact mt (Percent.encode_eq_empty ascii_of_keepsEncodedPath).mp once

theorem keepsPath_of_isEncodedByte : ∀ b : UInt8,
    Percent.isEncodedByte b = true → keepsPath b = true :=
  Bytes.forall_octet (by decide +kernel)

theorem keepsPath_of_digit : ∀ b : UInt8, (Hex.value? b).isSome = true → keepsPath b = true :=
  Bytes.forall_octet (by decide +kernel)

theorem keepsPath_of_mem_path {p : String} {b : UInt8}
    (member : b ∈ Utf8.encode (path p false)) : keepsPath b = true := by
  by_cases empty : p = ""
  · subst empty
    rw [List.mem_singleton.mp (show b ∈ [0x2F] from member)]
    decide
  · rw [path_once empty] at member
    exact (Percent.mem_encode ascii_of_keepsPath member).elim id (keepsPath_of_isEncodedByte b)

theorem plain_of_keepsPath : ∀ n < 128, keepsPath (UInt8.ofNat n) = true →
    (Char.ofNat n).isAlphanum = true ∨ Char.ofNat n ∈ ['-', '.', '_', '~', '/', '%'] := by
  decide +kernel

theorem plain_of_mem_path {p : String} {c : Char} (member : c ∈ (path p false).toList) :
    c.isAlphanum = true ∨ c ∈ ['-', '.', '_', '~', '/', '%'] := by
  have kept : ∀ b ∈ String.utf8EncodeChar c, keepsPath b = true := fun b inside =>
    keepsPath_of_mem_path (List.mem_flatMap.mpr ⟨c, member, inside⟩)
  obtain ⟨b, inside⟩ := List.exists_mem_of_ne_nil _ (String.utf8EncodeChar_ne_nil (c := c))
  have low : c.toNat < 128 := by
    have ascii := ascii_of_keepsPath b (kept b inside)
    have same := (Utf8.mem_encodeChar inside).resolve_right (by omega)
    omega
  rw [← Char.ofNat_toNat c] at kept ⊢
  rw [Utf8.encodeChar_ascii low] at kept
  exact plain_of_keepsPath _ low (kept _ (List.mem_singleton_self _))

/-- A path that is encoded once stands for the same octets, holds nothing but unreserved characters,
slashes and `%`, and is not changed by encoding it once more in the same way. -/
theorem decode_path_once {p : String} (filled : p ≠ "") :
    Percent.decode (Utf8.encode (path p false)) = Percent.decode (Utf8.encode p) ∧
      (∀ c ∈ (path p false).toList,
        c.isAlphanum = true ∨ c ∈ ['-', '.', '_', '~', '/', '%']) ∧
      path (path p false) false = path p false := by
  refine ⟨?_, fun c member => plain_of_mem_path member, ?_⟩
  · rw [path_once filled, Percent.encode_encode ascii_of_keepsPath]
    exact Percent.decode_flatMap_octets_of_kept (by decide) keepsPath_of_digit _
  · rw [path_once (path_ne_empty p false)]
    exact Percent.encode_eq_self ascii_of_keepsPath fun b member => keepsPath_of_mem_path member

/-- Behind a stray `%` an escape neither begins nor ends by what is encoded beside it. -/
theorem decode_path_once_stray :
    "/%$4%2é%é4%2F%" ≠ "" ∧
      Percent.decode (Utf8.encode (path "/%$4%2é%é4%2F%" false)) =
        Percent.decode (Utf8.encode "/%$4%2é%é4%2F%") ∧
      (∀ c ∈ (path "/%$4%2é%é4%2F%" false).toList,
        c.isAlphanum = true ∨ c ∈ ['-', '.', '_', '~', '/', '%']) ∧
      path (path "/%$4%2é%é4%2F%" false) false = path "/%$4%2é%é4%2F%" false :=
  ⟨by decide, decode_path_once (by decide)⟩

example : path "/%$4%2é" false = "/%%244%2%C3%A9" := by cbv

/-! ### Encoding twice -/

/-- No path at all is the root, which is the same however often it is encoded. -/
theorem path_twice (p : String) :
    path p true = Percent.encode keepsEncodedPath (path p false) := by
  by_cases empty : p = ""
  · subst empty
    decide
  · simp [path, empty]

/-- A path that is encoded twice is read as the one that is encoded once, so that it tells apart the
same paths. -/
theorem decode_path_twice (p q : String) :
    Percent.decode (Utf8.encode (path p true)) = Utf8.encode (path p false) ∧
      (path p true = path q true ↔ path p false = path q false) := by
  have once : ∀ p, Percent.decode (Utf8.encode (path p true)) = Utf8.encode (path p false) := by
    intro p
    rw [path_twice, Percent.encode_encode ascii_of_keepsEncodedPath]
    exact Percent.decode_flatMap_octets (by decide) _
  refine ⟨once p, fun same => ?_, fun same => ?_⟩
  · apply Utf8.encode_injective
    rw [← once, same, once]
  · rw [path_twice, same, path_twice]

end RequestSigning.Canonical
