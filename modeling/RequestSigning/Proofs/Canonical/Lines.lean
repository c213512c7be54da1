import Mathlib.Data.List.Perm.Basic
import RequestSigning.Proofs.Canonical.Fields

/-!
# Lines of canonical fields

Every value of a header map has a line, but for those of two names that proxies may change.  The
lines stand in the order of their names, and those of one name in the order their values came in.
So `fields_eq_iff`: what is signed is exactly the compacted values of each name.
-/

namespace RequestSigning.Canonical

open Http

variable {h k : Headers}

theorem isExcluded_eq_false_iff {n : HeaderName} :
    isExcluded n = false ↔ n ≠ .connection ∧ n ≠ .traceId := by
  simp [isExcluded]

/-- A list falls into the groups of its keys. -/
theorem flatMap_filter_perm {α β : Type} [DecidableEq β] {key : α → β} {keys : List β}
    {xs : List α} (once : keys.Nodup) (among : ∀ x ∈ xs, key x ∈ keys) :
    (keys.flatMap fun b => xs.filter (key · = b)).Perm xs := by
  induction keys generalizing xs with
  | nil =>
    have none : xs = [] :=
      List.eq_nil_iff_forall_not_mem.mpr fun x member => List.not_mem_nil (among x member)
    subst none
    exact .refl _
  | cons b rest ih =>
    obtain ⟨fresh, once⟩ := List.nodup_cons.mp once
    let others := xs.filter fun x => !decide (key x = b)
    have groups : (rest.flatMap fun c => xs.filter (key · = c)) =
        rest.flatMap fun c => others.filter (key · = c) := by
      rw [List.flatMap_def, List.flatMap_def]
      refine congrArg List.flatten (List.map_congr_left fun c member => ?_)
      have different : c ≠ b := fun same => fresh (same ▸ member)
      rw [List.filter_filter]
      refine List.filter_congr fun x _ => ?_
      by_cases same : key x = c <;> simp [same, different]
    have later : (rest.flatMap fun c => others.filter (key · = c)).Perm others := by
      apply ih once
      intro x member
      obtain ⟨inside, different⟩ := List.mem_filter.mp member
      exact (List.mem_cons.mp (among x inside)).resolve_left (by simpa using different)
    rw [List.flatMap_cons, groups]
    exact (later.append_left _).trans (List.filter_append_perm _ xs)

/-! ### The lines of one name -/

theorem name_of_mem_linesOf {n : HeaderName} {line : HeaderName × Bytes}
    (member : line ∈ linesOf h n) : line.1 = n := by
  obtain ⟨_, _, rfl⟩ := List.mem_map.mp member
  rfl

theorem filter_linesOf (h : Headers) (m n : HeaderName) :
    (linesOf h m).filter (·.1 = n) = if m = n then linesOf h m else [] := by
  split
  · rename_i same
    apply List.filter_eq_self.mpr
    intro line member
    simp [name_of_mem_linesOf member, same]
  · rename_i different
    apply List.filter_eq_nil_iff.mpr
    intro line member
    simp [name_of_mem_linesOf member, different]

theorem filter_flatMap_linesOf {names : List HeaderName} (once : names.Nodup) (h : Headers)
    (n : HeaderName) :
    (names.flatMap (linesOf h)).filter (·.1 = n) = if n ∈ names then linesOf h n else [] := by
  induction names with
  | nil => rfl
  | cons m rest ih =>
    obtain ⟨fresh, once⟩ := List.nodup_cons.mp once
    rw [List.flatMap_cons, List.filter_append, filter_linesOf, ih once]
    by_cases same : m = n
    · subst same
      simp [fresh]
    · simp [same, Ne.symm same]

theorem map_filter_fields {n : HeaderName} (signed : isExcluded n = false) (h : Headers) :
    ((fields h).filter (·.1 = n)).map (·.2) = (h.octets n).map compact := by
  rw [fields_eq_flatMap, filter_flatMap_linesOf (nodup_signedNames h)]
  split
  · rw [linesOf_eq, List.map_map]
    exact List.map_id _
  · rename_i unsigned
    have absent : h.values n = [] := by
      by_contra present
      exact unsigned (mem_signedNames.mpr ⟨present, signed⟩)
    rw [Headers.octets, absent]
    rfl

/-! ### All lines -/

/-- The line of a field. -/
def lineOf (f : HeaderField) : HeaderName × Bytes := (f.name, compact f.value.octets)

theorem linesOf_eq_filter (h : Headers) (n : HeaderName) :
    linesOf h n = (h.fields.filter (·.name = n)).map lineOf := by
  rw [linesOf, Headers.octets, Headers.values, List.map_map, List.map_map]
  refine List.map_congr_left fun f member => ?_
  have same : f.name = n := of_decide_eq_true (List.mem_filter.mp member).2
  rw [lineOf, same]
  rfl

theorem fields_perm (h : Headers) :
    (fields h).Perm ((h.fields.filter fun f => !isExcluded f.name).map lineOf) := by
  let kept := h.fields.filter fun f => !isExcluded f.name
  have groups : fields h =
      ((signedNames h).flatMap fun n => kept.filter (·.name = n)).map lineOf := by
    rw [fields_eq_flatMap, List.map_flatMap, List.flatMap_def, List.flatMap_def]
    refine congrArg List.flatten (List.map_congr_left fun n member => ?_)
    have signed := (mem_signedNames.mp member).2
    rw [linesOf_eq_filter, List.filter_filter]
    refine congrArg (List.map lineOf) (List.filter_congr fun f _ => ?_)
    by_cases same : f.name = n <;> simp [same, signed]
  have among : ∀ f ∈ kept, f.name ∈ signedNames h := by
    intro f member
    obtain ⟨inside, signed⟩ := List.mem_filter.mp member
    exact mem_signedNames.mpr
      ⟨Headers.values_ne_nil_iff.mpr ⟨f, inside, rfl⟩, by simpa using signed⟩
  rw [groups]
  exact (flatMap_filter_perm (nodup_signedNames h) among).map lineOf

theorem pairwise_signedNames (h : Headers) :
    (signedNames h).Pairwise fun m n => m.octets < n.octets := by
  have sorted := List.pairwise_mergeSort nameLe_trans nameLe_total
    (distinct ((h.fields.map (·.name)).filter (!isExcluded ·)))
  refine (sorted.and (nodup_signedNames h)).imp fun ⟨le, different⟩ => ?_
  simp only [nameLe, decide_eq_true_eq] at le
  exact List.not_le.mp fun ge => different (HeaderName.octets_inj (List.le_antisymm le ge))

theorem pairwise_fields (h : Headers) :
    (fields h).Pairwise fun l m => l.1.octets ≤ m.1.octets := by
  rw [fields_eq_flatMap, List.pairwise_flatMap]
  constructor
  · intro n _
    refine List.pairwise_of_forall_mem_list fun l left m right => ?_
    rw [name_of_mem_linesOf left, name_of_mem_linesOf right]
    exact List.le_refl _
  · refine (pairwise_signedNames h).imp fun less l left m right => ?_
    rw [name_of_mem_linesOf left, name_of_mem_linesOf right]
    exact List.le_of_lt less

theorem distinct_sublist {α : Type} [DecidableEq α] (xs : List α) : (distinct xs).Sublist xs := by
  induction xs with
  | nil => exact List.Sublist.refl _
  | cons x xs ih => exact (List.filter_sublist.trans ih).cons_cons x

theorem mem_map_fst_fields {n : HeaderName} : n ∈ (fields h).map (·.1) ↔ n ∈ signedNames h := by
  rw [fields_eq_flatMap, List.mem_map]
  constructor
  · rintro ⟨line, member, rfl⟩
    obtain ⟨m, signed, among⟩ := List.mem_flatMap.mp member
    rw [name_of_mem_linesOf among]
    exact signed
  · intro signed
    obtain ⟨value, among⟩ := List.exists_mem_of_ne_nil _
      (octets_ne_nil_iff.mpr (mem_signedNames.mp signed).1)
    exact ⟨(n, compact value), List.mem_flatMap.mpr ⟨n, signed, List.mem_map_of_mem among⟩, rfl⟩

theorem distinct_map_fst_fields (h : Headers) :
    distinct ((fields h).map (·.1)) = signedNames h := by
  symm
  apply signedNames_eq_of_perm
  · apply (List.perm_ext_iff_of_nodup (nodup_signedNames h) (nodup_distinct _)).mpr
    intro n
    rw [mem_distinct, mem_map_fst_fields]
  · have sorted : ((fields h).map (·.1)).Pairwise fun m n => nameLe m n = true := by
      simpa only [List.pairwise_map, nameLe, decide_eq_true_eq] using pairwise_fields h
    exact sorted.sublist (distinct_sublist _)

theorem lower_octets (n : HeaderName) : n.octets.map Ascii.lower = n.octets := by
  have named := n.isName
  simp only [isFieldName, Bool.and_eq_true, List.all_eq_true] at named
  refine (List.map_congr_left fun b member => ?_).trans (List.map_id _)
  have small : ¬(0x41 ≤ b ∧ b ≤ 0x5A) := by
    rintro ⟨least, most⟩
    simpa [least, most] using named.2 b member
  rw [Ascii.lower, if_neg small]
  rfl

/-- The lines of a header map: one for each value whose name is signed, under names that increase,
with the values of each name in their order. -/
structure Listing (h : Headers) (lines : List (HeaderName × Bytes)) : Prop where
  once : lines.Perm ((h.fields.filter fun f => f.name ≠ .connection ∧ f.name ≠ .traceId).map
    fun f => (f.name, compact f.value.octets))
  ordered : ∀ n, n ≠ .connection → n ≠ .traceId →
    (lines.filter (·.1 = n)).map (·.2) = (h.octets n).map compact
  grouped : lines.Pairwise fun l m => l.1.octets ≤ m.1.octets
  names : distinct (lines.map (·.1)) = signedNames h
  increasing : (signedNames h).Pairwise fun m n => m.octets < n.octets
  lowercase : ∀ n ∈ signedNames h, n.octets.map Ascii.lower = n.octets

theorem listing_fields (h : Headers) : Listing h (fields h) where
  once := by
    have kept : (h.fields.filter fun f => !isExcluded f.name) =
        h.fields.filter fun f => f.name ≠ .connection ∧ f.name ≠ .traceId :=
      List.filter_congr fun f _ => by simp [isExcluded, beq_eq_decide]
    exact kept ▸ fields_perm h
  ordered n notConnection notTrace :=
    map_filter_fields (isExcluded_eq_false_iff.mpr ⟨notConnection, notTrace⟩) h
  grouped := pairwise_fields h
  names := distinct_map_fst_fields h
  increasing := pairwise_signedNames h
  lowercase n _ := lower_octets n

/-- Two header maps have the same lines exactly if each name that is signed has the same compacted
values in the same order. -/
theorem fields_eq_iff (h k : Headers) :
    (fields h = fields k ↔ ∀ n, n ≠ .connection → n ≠ .traceId →
      (h.octets n).map compact = (k.octets n).map compact) ∧ Listing h (fields h) := by
  refine ⟨⟨fun same n notConnection notTrace => ?_, fun same => ?_⟩, listing_fields h⟩
  · rw [← (listing_fields h).ordered n notConnection notTrace, same,
      (listing_fields k).ordered n notConnection notTrace]
  · refine fields_eq_of_compact fun n signed => ?_
    obtain ⟨notConnection, notTrace⟩ := isExcluded_eq_false_iff.mp signed
    exact same n notConnection notTrace

end RequestSigning.Canonical
