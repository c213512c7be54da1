import RequestSigning.Canonical.Fields
import RequestSigning.Proofs.Bytes
import RequestSigning.Proofs.Http.Header

/-!
# Signed names and compacted values

`mem_signedNames`: a name is signed when the header map has a value of it and it is none of those
that proxies may change.  So `signedNames_congr` and `fields_congr`: what is signed depends on the
octets of these fields and not on the order they came in.
-/

namespace RequestSigning.Canonical

open Http

/-- Between the whitespace of a text there are texts. -/
theorem exists_encode_of_mem_splitWhen {cs : List Char} {piece : Bytes}
    (member : piece ∈ Bytes.splitWhen isSpace (cs.flatMap String.utf8EncodeChar)) :
    ∃ text, piece = Utf8.encode text := by
  -- Whitespace is ASCII, so a piece begins and ends between characters.
  induction cs generalizing piece with
  | nil => exact ⟨"", List.mem_singleton.mp member⟩
  | cons c cs ih =>
    rw [List.flatMap_cons] at member
    obtain ⟨next, pieces, split⟩ := List.exists_cons_of_ne_nil
      (Bytes.splitWhen_ne_nil isSpace (cs.flatMap String.utf8EncodeChar))
    by_cases blank : c.toNat < 128 ∧ isSpace (UInt8.ofNat c.toNat) = true
    · rw [← Char.ofNat_toNat c, Utf8.encodeChar_ascii blank.1, List.singleton_append,
        Bytes.splitWhen, if_pos blank.2] at member
      obtain rfl | later := List.mem_cons.mp member
      · exact ⟨"", rfl⟩
      · exact ih later
    · have plain : ∀ b ∈ String.utf8EncodeChar c, isSpace b = false := by
        intro b inside
        have low : ∀ b : UInt8, isSpace b = true → b.toNat < 128 :=
          Bytes.forall_octet (by decide +kernel)
        refine Bool.eq_false_iff.mpr fun space => blank ?_
        have ascii := low b space
        have same := (Utf8.mem_encodeChar inside).resolve_right (by omega)
        rw [← same, UInt8.ofNat_toNat]
        exact ⟨ascii, space⟩
      rw [Bytes.splitWhen_append_of_plain plain split] at member
      obtain rfl | later := List.mem_cons.mp member
      · obtain ⟨text, rfl⟩ := ih (split ▸ List.mem_cons_self)
        refine ⟨String.ofList (c :: text.toList), ?_⟩
        rw [Utf8.encode_ofList, List.flatMap_cons]
        rfl
      · exact ih (split ▸ List.mem_cons_of_mem next later)

/-- A compacted text is a text. -/
theorem exists_encode_eq_compact (s : String) :
    ∃ text, compact (Utf8.encode s) = Utf8.encode text := by
  have each : ∀ pieces : List Bytes, (∀ piece ∈ pieces, ∃ text, piece = Utf8.encode text) →
      ∃ texts : List String, pieces = texts.map Utf8.encode := by
    intro pieces texts
    induction pieces with
    | nil => exact ⟨[], rfl⟩
    | cons piece rest ih =>
      obtain ⟨text, rfl⟩ := texts piece List.mem_cons_self
      obtain ⟨others, rfl⟩ := ih fun x member => texts x (List.mem_cons_of_mem _ member)
      exact ⟨text :: others, rfl⟩
  obtain ⟨texts, split⟩ := each _ fun piece member =>
    exists_encode_of_mem_splitWhen (List.mem_filter.mp member).1
  refine ⟨" ".intercalate texts, ?_⟩
  rw [Utf8.encode_intercalate rfl, ← split]
  rfl

theorem mem_distinct {α : Type} [DecidableEq α] {x : α} {xs : List α} :
    x ∈ distinct xs ↔ x ∈ xs := by
  induction xs with
  | nil => simp [distinct]
  | cons y ys ih =>
    simp only [distinct, List.mem_cons, List.mem_filter, ih, decide_eq_true_eq]
    by_cases same : x = y <;> simp [same]

theorem mem_signedNames {h : Headers} {n : HeaderName} :
    n ∈ signedNames h ↔ h.values n ≠ [] ∧ isExcluded n = false := by
  rw [Headers.values_ne_nil_iff]
  simp [signedNames, List.mem_mergeSort, mem_distinct]

/-- A signed field with one value. -/
def SignsField (h : Headers) (n : HeaderName) (text : String) : Prop :=
  n ∈ signedNames h ∧ (h.values n).map (·.octets) = [Utf8.encode text]

theorem signsField_of_values {h : Headers} {n : HeaderName} {text : String}
    (allowed : isExcluded n = false)
    (single : ∃ v : HeaderValue, v.octets = Utf8.encode text ∧ h.values n = [v]) :
    SignsField h n text := by
  obtain ⟨v, octets, values⟩ := single
  refine ⟨mem_signedNames.mpr ⟨by simp [values], allowed⟩, ?_⟩
  rw [values, List.map_singleton, octets]

/-! ### Header maps that are signed alike -/

theorem nodup_distinct {α : Type} [DecidableEq α] (xs : List α) : (distinct xs).Nodup := by
  induction xs with
  | nil => exact List.nodup_nil
  | cons x xs ih =>
    rw [distinct, List.nodup_cons]
    exact ⟨by simp, ih.sublist List.filter_sublist⟩

theorem nodup_signedNames (h : Headers) : (signedNames h).Nodup :=
  (List.mergeSort_perm _ nameLe).nodup_iff.mpr (nodup_distinct _)

theorem nameLe_trans (l m n : HeaderName) (first : nameLe l m = true) (second : nameLe m n = true) :
    nameLe l n = true := by
  simp only [nameLe, decide_eq_true_eq] at first second ⊢
  exact List.le_trans first second

theorem nameLe_total (m n : HeaderName) : (nameLe m n || nameLe n m) = true := by
  simp only [nameLe, Bool.or_eq_true, decide_eq_true_eq]
  exact List.le_total m.octets n.octets

theorem nameLe_antisymm {m n : HeaderName} (first : nameLe m n = true) (second : nameLe n m = true) :
    m = n := by
  simp only [nameLe, decide_eq_true_eq] at first second
  exact HeaderName.octets_inj (List.le_antisymm first second)

variable {h k : Headers}

/-- Names in order are determined by which ones they are. -/
theorem signedNames_eq_of_perm {names : List HeaderName} (perm : (signedNames h).Perm names)
    (sorted : names.Pairwise fun m n => nameLe m n = true) : signedNames h = names :=
  List.Perm.eq_of_pairwise (fun _ _ _ _ => nameLe_antisymm)
    (List.pairwise_mergeSort nameLe_trans nameLe_total _) sorted perm

/-- Each of them stands once. -/
theorem signedNames_eq_of_present
    (same : ∀ n, isExcluded n = false → (h.values n ≠ [] ↔ k.values n ≠ [])) :
    signedNames h = signedNames k := by
  have members : ∀ n, n ∈ signedNames h ↔ n ∈ signedNames k := by
    intro n
    rw [mem_signedNames, mem_signedNames]
    exact and_congr_left fun signed => same n signed
  exact signedNames_eq_of_perm
    ((List.perm_ext_iff_of_nodup (nodup_signedNames h) (nodup_signedNames k)).mpr members)
    (List.pairwise_mergeSort nameLe_trans nameLe_total _)

theorem octets_ne_nil_iff {n : HeaderName} : h.octets n ≠ [] ↔ h.values n ≠ [] := by
  rw [Headers.octets, Ne, List.map_eq_nil_iff]

theorem signedNames_congr (same : ∀ n, isExcluded n = false → h.octets n = k.octets n) :
    signedNames h = signedNames k := by
  refine signedNames_eq_of_present fun n signed => ?_
  rw [← octets_ne_nil_iff, ← octets_ne_nil_iff, same n signed]

/-- The lines of a field. -/
def linesOf (h : Headers) (n : HeaderName) : List (HeaderName × Bytes) :=
  (h.octets n).map fun value => (n, compact value)

theorem fields_eq_flatMap (h : Headers) : fields h = (signedNames h).flatMap (linesOf h) := by
  have lines : linesOf h = fun n => (h.values n).map fun v => (n, compact v.octets) := by
    funext n
    rw [linesOf, Headers.octets, List.map_map]
    rfl
  rw [lines]
  rfl

theorem linesOf_eq (h : Headers) (n : HeaderName) :
    linesOf h n = ((h.octets n).map compact).map fun value => (n, value) := by
  rw [linesOf, List.map_map]
  rfl

theorem flatMap_linesOf_congr {names : List HeaderName}
    (same : ∀ n ∈ names, (h.octets n).map compact = (k.octets n).map compact) :
    names.flatMap (linesOf h) = names.flatMap (linesOf k) := by
  rw [List.flatMap_def, List.flatMap_def]
  refine congrArg List.flatten (List.map_congr_left fun n member => ?_)
  rw [linesOf_eq, linesOf_eq, same n member]

/-- The lines do not tell more than the compacted values. -/
theorem fields_eq_of_compact
    (same : ∀ n, isExcluded n = false → (h.octets n).map compact = (k.octets n).map compact) :
    fields h = fields k := by
  have names : signedNames h = signedNames k := by
    refine signedNames_eq_of_present fun n signed => ?_
    have present : ∀ l : Headers, l.values n ≠ [] ↔ (l.octets n).map compact ≠ [] := by
      intro l
      rw [← octets_ne_nil_iff, Ne, Ne, List.map_eq_nil_iff]
    rw [present, present, same n signed]
  rw [fields_eq_flatMap, fields_eq_flatMap, names]
  exact flatMap_linesOf_congr fun n member => same n (mem_signedNames.mp member).2

theorem fields_congr (same : ∀ n, isExcluded n = false → h.octets n = k.octets n) :
    fields h = fields k :=
  fields_eq_of_compact fun n signed => congrArg (List.map compact) (same n signed)

/-- Where one field has one value or another, the lines before and behind it are the same. -/
theorem fields_split {n : HeaderName} {v w : Bytes} (allowed : isExcluded n = false)
    (others : ∀ m, m ≠ n → h.octets m = k.octets m) (left : h.octets n = [v])
    (right : k.octets n = [w]) :
    signedNames h = signedNames k ∧ ∃ before after,
      fields h = before ++ (n, compact v) :: after ∧
      fields k = before ++ (n, compact w) :: after := by
  have names : signedNames h = signedNames k := by
    refine signedNames_eq_of_present fun m _ => ?_
    rw [← octets_ne_nil_iff, ← octets_ne_nil_iff]
    by_cases same : m = n
    · simp [same, left, right]
    · rw [others m same]
  have member : n ∈ signedNames k :=
    mem_signedNames.mpr ⟨octets_ne_nil_iff.mp (by simp [right]), allowed⟩
  obtain ⟨first, last, split⟩ := List.append_of_mem member
  have once := nodup_signedNames k
  rw [split, List.nodup_append] at once
  obtain ⟨_, tail, apart⟩ := once
  have before : first.flatMap (linesOf h) = first.flatMap (linesOf k) :=
    flatMap_linesOf_congr fun m inside =>
      congrArg (List.map compact) (others m (apart m inside n List.mem_cons_self))
  have after : last.flatMap (linesOf h) = last.flatMap (linesOf k) :=
    flatMap_linesOf_congr fun m inside => congrArg (List.map compact) (others m fun same =>
      (List.nodup_cons.mp tail).1 (same ▸ inside))
  refine ⟨names, first.flatMap (linesOf k), last.flatMap (linesOf k), ?_, ?_⟩
  · rw [fields_eq_flatMap, names, split, List.flatMap_append, List.flatMap_cons, before, after,
      linesOf, left]
    rfl
  · rw [fields_eq_flatMap, split, List.flatMap_append, List.flatMap_cons, linesOf, right]
    rfl

end RequestSigning.Canonical
