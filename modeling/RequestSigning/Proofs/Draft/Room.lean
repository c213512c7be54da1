import RequestSigning.Proofs.Draft.Restore

/-!
# Room for a query

A uri may hold a limited number of octets, and no octet of a pair takes more than three of them.
`exists_restore`: a draft that keeps to that is restored.
-/

namespace RequestSigning

open Http

theorem Percent.length_encode_le (s : String) :
    (Utf8.encode (encode isUnreserved s)).length ≤ 3 * (Utf8.encode s).length := by
  have each : ∀ b : UInt8, (octets isUnreserved b).length ≤ 3 := by
    intro b
    unfold octets
    split <;> simp
  rw [encode_encode ascii_of_isUnreserved, List.length_flatMap]
  induction Utf8.encode s with
  | nil => exact Nat.le_refl 0
  | cons b rest ih =>
    have first := each b
    rw [List.map_cons, List.sum_cons, List.length_cons]
    omega

namespace Draft

/-- What a pair takes of a uri at most, with its separators. -/
def pairRoom (pair : String × String) : Nat :=
  3 * ((Utf8.encode pair.1).length + (Utf8.encode pair.2).length) + 2

def queryRoom : List (String × String) → Nat
  | [] => 0
  | pair :: rest => pairRoom pair + queryRoom rest

theorem queryRoom_append (pairs more : List (String × String)) :
    queryRoom (pairs ++ more) = queryRoom pairs + queryRoom more := by
  induction pairs with
  | nil => exact (Nat.zero_add _).symm
  | cons pair rest ih => rw [List.cons_append, queryRoom, queryRoom, ih, Nat.add_assoc]

theorem length_pairText_lt (pair : String × String) :
    (Utf8.encode (pairText pair)).length + 1 ≤ pairRoom pair := by
  have key := Percent.length_encode_le pair.1
  have value := Percent.length_encode_le pair.2
  rw [encode_pairText, List.length_append, pairRoom]
  split
  · rw [List.length_nil]
    omega
  · rw [List.length_cons]
    omega

theorem length_join_le (pairs : List (String × String)) :
    (Bytes.join 0x26 (pairs.map fun pair => Utf8.encode (pairText pair))).length ≤
      queryRoom pairs := by
  induction pairs with
  | nil => exact Nat.le_refl 0
  | cons pair rest ih =>
    have first := length_pairText_lt pair
    cases rest with
    | nil =>
      rw [List.map_singleton, Bytes.join, queryRoom]
      omega
    | cons next rest =>
      rw [List.map_cons, queryRoom]
      rw [List.map_cons] at ih ⊢
      rw [Bytes.join, List.length_append, List.length_cons]
      · omega
      · exact List.cons_ne_nil _ _

theorem length_queryOf_le (d : Draft) :
    (Utf8.encode ((queryOf d.query).elim "" fun q => "?" ++ q)).length ≤ queryRoom d.query + 1 := by
  have written := length_join_le d.query
  rw [← encode_queryText] at written
  have mark : (Utf8.encode "?").length = 1 := rfl
  unfold queryOf
  rw [← queryText]
  dsimp only
  split
  · exact Nat.zero_le _
  · rw [Option.elim_some, Utf8.encode_append, List.length_append]
    omega

/-- A draft with room for its path and its query is restored. -/
theorem exists_restore {d : Draft} (rooted : d.HasTargetPath) (path : d.path ≠ "*")
    (room : (Utf8.encode d.path).length + queryRoom d.query < maxUriLength) (left : Head) :
    ∃ sent, d.restore left = (.ok (), sent) := by
  have target := (isTarget_queryOf rooted).resolve_right fun star => path star.1
  have query := length_queryOf_le d
  refine ⟨_, (restore_ok_iff rooted).mpr ⟨⟨d.path, queryOf d.query, target⟩, rfl, rfl, ?_, rfl⟩⟩
  rw [show (Target.mk d.path (queryOf d.query) target).text = d.path ++ (queryOf d.query).elim ""
    fun q => "?" ++ q from rfl, Utf8.encode_append, List.length_append]
  omega

/-- So is one with room for one pair more. -/
theorem exists_restore_addPairs {d : Draft} {pair : String × String} (rooted : d.HasTargetPath)
    (path : d.path ≠ "*")
    (room : (Utf8.encode d.path).length + queryRoom d.query + pairRoom pair < maxUriLength)
    (left : Head) :
    ∃ sent, (d.addPairs [pair]).restore left = (.ok (), sent) := by
  have longer : (d.addPairs [pair]).HasTargetPath := rooted
  refine exists_restore longer path ?_ left
  rw [addPairs, queryRoom_append, ← Nat.add_assoc]
  exact room

end Draft

end RequestSigning
