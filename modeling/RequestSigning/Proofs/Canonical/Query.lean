import Mathlib.Data.Multiset.AddSub
import RequestSigning.Canonical.Target
import RequestSigning.Proofs.Draft.Query

/-!
# Canonical queries and lost pairs

`count_query`: there is one `=` for each pair.  So the canonical query is another one where a pair of
two empty texts has been passed over.  `perm_of_query_eq`: no other pairs have the same canonical
query, but for their order.
-/

namespace RequestSigning.Canonical

open Draft (emptyPair)

theorem count_encodePair (pair : String × String) :
    (Utf8.encode ((encodePair pair).1 ++ "=" ++ (encodePair pair).2)).count 0x3D = 1 := by
  have key := List.count_eq_zero.mpr (Draft.not_mem_encode (b := 0x3D) pair.1 (by decide))
  have value := List.count_eq_zero.mpr (Draft.not_mem_encode (b := 0x3D) pair.2 (by decide))
  have equals : (Utf8.encode "=").count 0x3D = 1 := by decide
  rw [Utf8.encode_append, Utf8.encode_append, List.count_append, List.count_append, equals,
    encodePair, key, value]

theorem count_query (pairs : List (String × String)) :
    (Utf8.encode (query pairs)).count 0x3D = pairs.length := by
  rw [query, Utf8.encode_intercalate rfl, Bytes.count_join (by decide)]
  · rw [List.length_map, List.length_map, List.length_mergeSort, List.length_map]
  · intro piece member
    obtain ⟨text, among, rfl⟩ := List.mem_map.mp member
    obtain ⟨written, sorted, rfl⟩ := List.mem_map.mp among
    obtain ⟨pair, _, rfl⟩ := List.mem_map.mp (List.mem_mergeSort.mp sorted)
    exact count_encodePair pair

theorem query_filter_eq_iff (pairs : List (String × String)) :
    query (pairs.filter (· ≠ emptyPair)) = query pairs ↔ emptyPair ∉ pairs := by
  rw [← Draft.filter_eq_self]
  constructor
  · intro same
    have lengths : (pairs.filter (· ≠ emptyPair)).length = pairs.length := by
      rw [← count_query, ← count_query, same]
    exact List.filter_eq_self.mpr (List.length_filter_eq_length_iff.mp lengths)
  · intro kept
    rw [kept]

/-! ### What a canonical query says -/

/-- What is written for an encoded pair. -/
def writtenPair (p : String × String) : String := p.1 ++ "=" ++ p.2

/-- The encoded pairs in their order. -/
def sortedPairs (pairs : List (String × String)) : List (String × String) :=
  (pairs.map encodePair).mergeSort pairLe

theorem encode_query (pairs : List (String × String)) :
    Utf8.encode (query pairs) =
      Bytes.join 0x26 ((sortedPairs pairs).map fun p => Utf8.encode (writtenPair p)) := by
  rw [query, Utf8.encode_intercalate rfl, List.map_map]
  rfl

theorem encode_writtenPair (p : String × String) :
    Utf8.encode (writtenPair p) = Utf8.encode p.1 ++ 0x3D :: Utf8.encode p.2 := by
  rw [writtenPair, Utf8.encode_append, Utf8.encode_append, List.append_assoc]
  rfl

theorem exists_of_mem_sortedPairs {pairs : List (String × String)} {p : String × String}
    (member : p ∈ sortedPairs pairs) : ∃ pair, p = encodePair pair := by
  obtain ⟨pair, _, same⟩ := List.mem_map.mp (List.mem_mergeSort.mp member)
  exact ⟨pair, same.symm⟩

/-- What stands before the first `=`, and what stands behind it. -/
def readPair (bs : Bytes) : String × String :=
  (Utf8.decodeLossy (Bytes.cut 0x3D bs).1, Utf8.decodeLossy ((Bytes.cut 0x3D bs).2.getD []))

theorem readPair_writtenPair (pair : String × String) :
    readPair (Utf8.encode (writtenPair (encodePair pair))) = encodePair pair := by
  have key : 0x3D ∉ Utf8.encode (encodePair pair).1 := Draft.not_mem_encode pair.1 (by decide)
  rw [encode_writtenPair, readPair, Bytes.cut_append key, Option.getD_some,
    Utf8.decodeLossy_encode, Utf8.decodeLossy_encode]

theorem map_readPair (pairs : List (String × String)) :
    ((sortedPairs pairs).map fun p => Utf8.encode (writtenPair p)).map readPair =
      sortedPairs pairs := by
  rw [List.map_map]
  refine (List.map_congr_left fun p member => ?_).trans (List.map_id _)
  obtain ⟨pair, rfl⟩ := exists_of_mem_sortedPairs member
  exact readPair_writtenPair pair

theorem filled_of_mem_written {pairs : List (String × String)} {piece : Bytes}
    (among : piece ∈ (sortedPairs pairs).map fun p => Utf8.encode (writtenPair p)) : piece ≠ [] := by
  obtain ⟨p, _, rfl⟩ := List.mem_map.mp among
  rw [encode_writtenPair]
  exact List.append_ne_nil_of_right_ne_nil _ (List.cons_ne_nil _ _)

theorem clean_of_mem_written {pairs : List (String × String)} {piece : Bytes}
    (among : piece ∈ (sortedPairs pairs).map fun p => Utf8.encode (writtenPair p)) :
    0x26 ∉ piece := by
  intro member
  obtain ⟨p, sorted, rfl⟩ := List.mem_map.mp among
  obtain ⟨pair, rfl⟩ := exists_of_mem_sortedPairs sorted
  rw [encode_writtenPair, List.mem_append, List.mem_cons] at member
  obtain key | equals | value := member
  · exact Draft.not_mem_encode pair.1 (by decide) key
  · exact absurd equals (by decide)
  · exact Draft.not_mem_encode pair.2 (by decide) value

theorem sortedPairs_eq_of_query {ps qs : List (String × String)} (same : query ps = query qs) :
    sortedPairs ps = sortedPairs qs := by
  have pieces : (sortedPairs ps).map (fun p => Utf8.encode (writtenPair p)) =
      (sortedPairs qs).map fun p => Utf8.encode (writtenPair p) :=
    Bytes.join_inj (fun _ => filled_of_mem_written) (fun _ => filled_of_mem_written)
      (fun _ => clean_of_mem_written) (fun _ => clean_of_mem_written)
      (by rw [← encode_query, same, encode_query])
  rw [← map_readPair ps, pieces, map_readPair]

/-- Pairs with the same canonical query are encoded as the same pairs. -/
theorem perm_of_query_eq {ps qs : List (String × String)} (same : query ps = query qs) :
    (ps.map encodePair).Perm (qs.map encodePair) := by
  have sorted : (sortedPairs ps).Perm (sortedPairs qs) := by rw [sortedPairs_eq_of_query same]
  exact ((List.mergeSort_perm _ pairLe).symm.trans sorted).trans (List.mergeSort_perm _ pairLe)

theorem query_eq_intercalate (pairs : List (String × String)) :
    query pairs = "&".intercalate ((sortedPairs pairs).map writtenPair) := rfl

theorem mem_written {pairs : List (String × String)} {pair : String × String}
    (member : pair ∈ pairs) :
    writtenPair (encodePair pair) ∈ (sortedPairs pairs).map writtenPair :=
  List.mem_map_of_mem (List.mem_mergeSort.mpr (List.mem_map_of_mem member))

/-- One value in a query is known from the canonical one, as far as the others are. -/
theorem query_eq_iff_of_value {before after : List (String × String)} {key value other : String} :
    query (before ++ (key, value) :: after) = query (before ++ (key, other) :: after) ↔
      Percent.encode Percent.isUnreserved value = Percent.encode Percent.isUnreserved other := by
  constructor
  · intro same
    have perm := perm_of_query_eq same
    rw [List.map_append, List.map_append, List.map_cons, List.map_cons] at perm
    have cons := List.perm_middle.symm.trans (perm.trans List.perm_middle)
    rw [← Multiset.coe_eq_coe, ← Multiset.cons_coe, ← Multiset.cons_coe,
      Multiset.cons_inj_left] at cons
    exact congrArg Prod.snd cons
  · intro same
    have pair : encodePair (key, value) = encodePair (key, other) := Prod.ext rfl same
    rw [query, query, List.map_append, List.map_append, List.map_cons, List.map_cons, pair]

end RequestSigning.Canonical
