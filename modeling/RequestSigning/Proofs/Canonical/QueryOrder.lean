import Mathlib.Data.List.Perm.Basic
import RequestSigning.Proofs.Canonical.Query

/-!
# Canonical queries and the order of pairs

`map_encodePair_parse`: a canonical query is read back as its pairs, sorted.  Sorting forgets
nothing but the order in which the pairs came, so `query_eq_iff_perm`: a canonical query stands for
the pairs with their numbers.
-/

namespace RequestSigning.Canonical

theorem encodePair_injective : Function.Injective encodePair := by
  intro p q same
  exact Prod.ext (Percent.encode_injective (congrArg Prod.fst same))
    (Percent.encode_injective (congrArg Prod.snd same))

/-! ### The order of encoded pairs -/

theorem pairLe_iff {p q : String × String} :
    pairLe p q = true ↔ p.1 < q.1 ∨ p.1 = q.1 ∧ p.2 ≤ q.2 := by
  simp [pairLe]

theorem pairLe_trans (p q r : String × String) (first : pairLe p q = true)
    (second : pairLe q r = true) : pairLe p r = true := by
  rw [pairLe_iff] at first second ⊢
  obtain less | ⟨same, le⟩ := first
  · obtain less' | ⟨same', _⟩ := second
    · exact .inl (String.lt_trans less less')
    · exact .inl (same' ▸ less)
  · obtain less' | ⟨same', le'⟩ := second
    · exact .inl (same ▸ less')
    · exact .inr ⟨same.trans same', String.le_trans le le'⟩

theorem pairLe_total (p q : String × String) : (pairLe p q || pairLe q p) = true := by
  rw [Bool.or_eq_true, pairLe_iff, pairLe_iff]
  by_cases less : p.1 < q.1
  · exact .inl (.inl less)
  by_cases greater : q.1 < p.1
  · exact .inr (.inl greater)
  have same : p.1 = q.1 := String.le_antisymm (String.not_lt.mp greater) (String.not_lt.mp less)
  exact (String.le_total p.2 q.2).imp (fun le => .inr ⟨same, le⟩) fun le => .inr ⟨same.symm, le⟩

theorem pairLe_antisymm {p q : String × String} (first : pairLe p q = true)
    (second : pairLe q p = true) : p = q := by
  rw [pairLe_iff] at first second
  obtain less | ⟨same, le⟩ := first
  · obtain greater | ⟨same, _⟩ := second
    · exact absurd greater (String.lt_asymm less)
    · exact absurd (same ▸ less) (String.lt_irrefl _)
  · obtain greater | ⟨_, le'⟩ := second
    · exact absurd (same ▸ greater) (String.lt_irrefl _)
    · exact Prod.ext same (String.le_antisymm le le')

theorem sortedPairs_perm (pairs : List (String × String)) :
    (sortedPairs pairs).Perm (pairs.map encodePair) :=
  List.mergeSort_perm _ pairLe

theorem pairwise_sortedPairs (pairs : List (String × String)) :
    (sortedPairs pairs).Pairwise fun p q => pairLe p q = true :=
  List.pairwise_mergeSort pairLe_trans pairLe_total _

variable {ps qs : List (String × String)}

theorem sortedPairs_eq_of_perm (perm : ps.Perm qs) : sortedPairs ps = sortedPairs qs :=
  List.Perm.eq_of_pairwise (fun _ _ _ _ => pairLe_antisymm) (pairwise_sortedPairs ps)
    (pairwise_sortedPairs qs)
    ((sortedPairs_perm ps).trans ((perm.map encodePair).trans (sortedPairs_perm qs).symm))

theorem query_eq_of_perm (perm : ps.Perm qs) : query ps = query qs := by
  rw [query_eq_intercalate, sortedPairs_eq_of_perm perm, query_eq_intercalate]

/-! ### Reading a canonical query -/

theorem rawPairOf_writtenPair (pair : String × String) :
    Form.rawPairOf (Utf8.encode (writtenPair (encodePair pair))) =
      (Utf8.encode pair.1, Utf8.encode pair.2) := by
  have key : 0x3D ∉ Utf8.encode (encodePair pair).1 := Draft.not_mem_encode pair.1 (by decide)
  rw [encode_writtenPair, Form.rawPairOf, Bytes.cut_append key, Option.getD_some, encodePair,
    Form.decodeBytes_encode, Form.decodeBytes_encode]

/-- No piece is empty, because each has its `=`. -/
theorem rawPairs_query (pairs : List (String × String)) :
    Form.rawPairs (Utf8.encode (query pairs)) =
      (sortedPairs pairs).map fun p => Form.rawPairOf (Utf8.encode (writtenPair p)) := by
  rw [encode_query, Form.rawPairs_join fun _ => clean_of_mem_written,
    List.filter_eq_self.mpr fun _ among => decide_eq_true (filled_of_mem_written among),
    List.map_map]
  rfl

theorem map_encodePair_parse (pairs : List (String × String)) :
    (Form.parse (Utf8.encode (query pairs))).map encodePair = sortedPairs pairs := by
  rw [Form.parse, rawPairs_query, List.map_map, List.map_map]
  refine (List.map_congr_left fun p member => ?_).trans (List.map_id _)
  obtain ⟨pair, rfl⟩ := exists_of_mem_sortedPairs member
  simp only [Function.comp_apply, rawPairOf_writtenPair, Utf8.decodeLossy_encode, id]

/-- Two lists of pairs have the same canonical query exactly if they hold the same pairs equally
often, in whatever order, and a canonical query is read back as the pairs it was made of. -/
theorem query_eq_iff_perm (ps qs : List (String × String)) :
    (query ps = query qs ↔ ps.Perm qs) ∧ (Form.parse (Utf8.encode (query ps))).Perm ps := by
  refine ⟨⟨fun same => ?_, query_eq_of_perm⟩, ?_⟩
  · exact (List.map_perm_map_iff encodePair_injective).mp (perm_of_query_eq same)
  · apply (List.map_perm_map_iff encodePair_injective).mp
    rw [map_encodePair_parse]
    exact sortedPairs_perm ps

/-- A pair of two empty texts is a pair like any other. -/
example : query [("", "&"), ("", "")] = "=&=%26" := by cbv

end RequestSigning.Canonical
