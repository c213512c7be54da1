import RequestSigning.Proofs.Http.FieldText

/-!
# Setting header fields

`SetTo` relates the header fields before and behind a step that gives a field its only value, if
there is a text for it.  `without` takes every field of a name out; `SetTo.without_eq`: that undoes
the step where the name had no field before.
-/

namespace RequestSigning.Http

theorem HeaderValue.octets_of_text? {v : HeaderValue} {text : String} (read : v.text? = .ok text) :
    v.octets = Utf8.encode text := by
  have low : ∀ b : UInt8, isVisibleByte b = true → b.toNat < 128 :=
    Bytes.forall_octet (by decide +kernel)
  unfold text? at read
  split at read
  · rename_i visible
    cases read
    exact (Utf8.encode_asciiText fun b member => low b (List.all_eq_true.mp visible b member)).symm
  · cases read

namespace Headers

/-- The values of a name as they are sent. -/
def octets (h : Headers) (n : HeaderName) : List Bytes := (h.values n).map (·.octets)

/-- The fields of every other name. -/
def without (h : Headers) (n : HeaderName) : Headers := ⟨h.fields.filter (·.name ≠ n)⟩

theorem without_insert (h : Headers) (n : HeaderName) (v : HeaderValue) :
    (h.insert n v).without n = h.without n := by
  simp [without, insert, List.filter_append, List.filter_filter]

theorem values_ne_nil_iff {h : Headers} {n : HeaderName} :
    h.values n ≠ [] ↔ ∃ f ∈ h.fields, f.name = n := by
  simp [values, List.filter_eq_nil_iff]

theorem without_of_values_nil {h : Headers} {n : HeaderName} (absent : h.values n = []) :
    h.without n = h := by
  have kept : h.fields.filter (·.name ≠ n) = h.fields := by
    apply List.filter_eq_self.mpr
    intro f member
    have different : f.name ≠ n := fun same => values_ne_nil_iff.mpr ⟨f, member, same⟩ absent
    exact decide_eq_true different
  cases h
  exact congrArg Headers.mk kept

theorem text?_congr {h k : Headers} {n : HeaderName} (same : h.values n = k.values n) :
    h.text? n = k.text? n := by
  simp only [text?, get?, same]

/-- A single value reads as the text that was written, if it reads as any. -/
theorem text_of_single {h : Headers} {n : HeaderName} {v : HeaderValue} {text other : String}
    (octets : v.octets = Utf8.encode text) (values : h.values n = [v])
    (read : h.text? n = some other) : other = text := by
  rw [text?, get?, values, List.head?_cons, Option.bind_some] at read
  cases visible : v.text? with
  | error fault =>
    rw [visible] at read
    cases read
  | ok written =>
    rw [visible] at read
    cases read
    exact Utf8.encode_injective ((HeaderValue.octets_of_text? visible).symm.trans octets)

theorem octets_congr {h k : Headers} {n : HeaderName} (same : h.values n = k.values n) :
    h.octets n = k.octets n :=
  congrArg (List.map HeaderValue.octets) same

/-- What is in a field can be in one. -/
theorem isFieldText_of_mem_octets {h : Headers} {n : HeaderName} {text : String}
    (member : Utf8.encode text ∈ h.octets n) : IsFieldText text := by
  obtain ⟨v, _, octets⟩ := List.mem_map.mp member
  rw [IsFieldText, ← octets]
  exact v.isValue

/-- The last header map is the first one with a text as the only value of a field; where there is no
text it is the first one itself. -/
inductive SetTo (h : Headers) (n : HeaderName) : Option String → Bool → Headers → Prop
  | written {text : String} {sensitive : Bool} {v : HeaderValue}
      (value : HeaderValue.ofText? text sensitive = .ok v) :
      SetTo h n (some text) sensitive (h.insert n v)
  | kept {sensitive : Bool} : SetTo h n none sensitive h

namespace SetTo

variable {h k : Headers} {n m : HeaderName} {text : String} {sensitive : Bool}

theorem exists_some (h : Headers) (n : HeaderName) (sensitive : Bool)
    (writable : IsFieldText text) : ∃ k, h.SetTo n (some text) sensitive k := by
  obtain ⟨v, value⟩ := HeaderValue.exists_ofText? sensitive writable
  exact ⟨h.insert n v, .written value⟩

theorem exists_of_isFieldText {texts : Option String} (h : Headers) (n : HeaderName)
    (sensitive : Bool) (writable : ∀ text ∈ texts, IsFieldText text) :
    ∃ k, h.SetTo n texts sensitive k := by
  cases texts with
  | none => exact ⟨h, .kept⟩
  | some text => exact exists_some h n sensitive (writable text rfl)

/-- There is one way to set a field. -/
theorem unique {texts : Option String} {l : Headers} (set : h.SetTo n texts sensitive k)
    (again : h.SetTo n texts sensitive l) : k = l := by
  cases set with
  | kept =>
    cases again with
    | kept => rfl
  | written value =>
    cases again with
    | written other => rw [Except.ok.inj (value.symm.trans other)]

theorem isFieldText (set : h.SetTo n (some text) sensitive k) : IsFieldText text := by
  cases set with
  | written value => exact HeaderValue.isFieldText_of_ok value

theorem values_self (set : h.SetTo n (some text) sensitive k) :
    ∃ v : HeaderValue, v.octets = Utf8.encode text ∧ v.sensitive = sensitive ∧ k.values n = [v] := by
  cases set with
  | @written _ _ v value =>
    obtain ⟨octets, marked⟩ := HeaderValue.ofText?_ok value
    exact ⟨v, octets, marked, by simp⟩

theorem values_other {texts : Option String} (set : h.SetTo n texts sensitive k)
    (different : n ≠ m) : k.values m = h.values m := by
  cases set with
  | kept => rfl
  | written value => rw [values_insert, if_neg different]

/-- A field is as it was where it is another one, or where there is no text for it. -/
theorem values_kept {texts : Option String} (set : h.SetTo n texts sensitive k)
    (unset : n = m → texts = none) : k.values m = h.values m := by
  cases set with
  | kept => rfl
  | written value =>
    refine SetTo.values_other (.written value) fun same => ?_
    cases unset same

theorem octets_self (set : h.SetTo n (some text) sensitive k) :
    k.octets n = [Utf8.encode text] := by
  obtain ⟨v, written, _, values⟩ := set.values_self
  rw [octets, values, List.map_singleton, written]

theorem octets_other {texts : Option String} (set : h.SetTo n texts sensitive k)
    (different : n ≠ m) : k.octets m = h.octets m :=
  octets_congr (set.values_other different)

/-- A field that held the text already is as it was. -/
theorem octets_of_held {texts : Option String} (set : h.SetTo n texts sensitive k)
    (held : ∀ text ∈ texts, h.octets n = [Utf8.encode text]) (m : HeaderName) :
    k.octets m = h.octets m := by
  by_cases same : n = m
  · subst same
    cases texts with
    | none =>
      cases set
      rfl
    | some text => rw [set.octets_self, held text rfl]
  · exact set.octets_other same

/-- Nothing has changed exactly if the field held the text already. -/
theorem octets_eq_iff {texts : Option String} (set : h.SetTo n texts sensitive k) :
    (∀ m, k.octets m = h.octets m) ↔ ∀ text ∈ texts, h.octets n = [Utf8.encode text] := by
  refine ⟨fun same text present => ?_, set.octets_of_held⟩
  cases Option.mem_def.mp present
  rw [← same, set.octets_self]

theorem without_eq {texts : Option String} (set : h.SetTo n texts sensitive k)
    (absent : h.values n = []) : k.without n = h := by
  cases set with
  | kept => exact without_of_values_nil absent
  | written value => rw [without_insert, without_of_values_nil absent]

end SetTo

end Headers

end RequestSigning.Http
