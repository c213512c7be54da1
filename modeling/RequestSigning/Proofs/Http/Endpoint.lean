import RequestSigning.Proofs.Decimal.Digits
import RequestSigning.Proofs.Http.Authority

/-!
# The endpoint that a host field names

Brackets of an authority are balanced, so that its host is an address in brackets or a name without
colons: `IsHost`.  Whatever port is written behind such a host, host and port are found again, and
`hostText_names_endpoint`: the host field of a request has the host and the port of its authority.
-/

namespace RequestSigning

namespace Http

/-! ### Brackets -/

namespace Scan

variable {s t : Scan} {b : UInt8} {bs : Bytes}

/-- What one octet does to the brackets. -/
theorem step_brackets (accepted : s.step b = .ok t) :
    (b = 0x5B ∧ s.opened = false ∧ t.opened = true ∧ t.closed = s.closed) ∨
    (b = 0x5D ∧ s.opened = true ∧ t.opened = true ∧ t.closed = true) ∨
    (b ≠ 0x5B ∧ b ≠ 0x5D ∧ t.opened = s.opened ∧ t.closed = s.closed) := by
  unfold step at accepted
  by_cases opening : b = 0x5B
  · subst opening
    rw [if_neg (by decide), if_pos rfl] at accepted
    split at accepted
    · cases accepted
    · rename_i fresh
      cases accepted
      simp only [Bool.or_eq_true, not_or, Bool.not_eq_true] at fresh
      exact .inl ⟨rfl, fresh.2, rfl, rfl⟩
  by_cases closing : b = 0x5D
  · subst closing
    rw [if_neg (by decide), if_neg opening, if_pos rfl] at accepted
    split at accepted
    · cases accepted
    · rename_i inside
      cases accepted
      simp only [Bool.or_eq_true, not_or, Bool.not_eq_true, Bool.not_eq_false'] at inside
      exact .inr (.inl ⟨rfl, inside.1, inside.1, rfl⟩)
  · right; right
    refine ⟨opening, closing, ?_⟩
    rw [if_neg opening, if_neg closing] at accepted
    repeat' split at accepted
    all_goals cases accepted
    all_goals exact ⟨rfl, rfl⟩

/-- No bracket is closed before one is opened. -/
theorem opened_of_closed (accepted : bs.foldlM step s = .ok t)
    (before : s.closed = true → s.opened = true) : t.closed = true → t.opened = true := by
  induction bs generalizing s with
  | nil =>
    cases accepted
    exact before
  | cons b bs ih =>
    rw [List.foldlM_cons] at accepted
    obtain ⟨u, stepped, accepted⟩ := of_bind_ok accepted
    refine ih accepted fun closed => ?_
    obtain ⟨_, _, opened, _⟩ | ⟨_, _, opened, _⟩ | ⟨_, _, opened, kept⟩ := step_brackets stepped
    · exact opened
    · exact opened
    · rw [opened]
      exact before (kept.symm.trans closed)

/-- An open bracket stays open as long as none is closed. -/
theorem open_of_not_mem (accepted : bs.foldlM step s = .ok t) (opened : s.opened = true)
    (closed : s.closed = false) (absent : 0x5D ∉ bs) : t.opened = true ∧ t.closed = false := by
  induction bs generalizing s with
  | nil =>
    cases accepted
    exact ⟨opened, closed⟩
  | cons b bs ih =>
    rw [List.foldlM_cons] at accepted
    obtain ⟨u, stepped, accepted⟩ := of_bind_ok accepted
    have later := List.not_mem_of_not_mem_cons absent
    obtain ⟨_, fresh, _⟩ | ⟨rfl, _⟩ | ⟨_, _, stays, kept⟩ := step_brackets stepped
    · exact absurd (fresh.symm.trans opened) Bool.false_ne_true
    · exact absurd List.mem_cons_self absent
    · exact ih accepted (stays.trans opened) (kept.trans closed) later

end Scan

namespace Authority

/-- In an authority a bracket that is opened is closed behind it. -/
theorem mem_closing (a : Authority) {front rest : Bytes} (split : a.octets = front ++ 0x5B :: rest) :
    0x5D ∈ rest := by
  obtain ⟨t, scanned, ends⟩ := a.exists_scanned
  rw [split, List.foldlM_append] at scanned
  obtain ⟨s, before, scanned⟩ := Scan.of_bind_ok scanned
  rw [List.foldlM_cons] at scanned
  obtain ⟨u, stepped, scanned⟩ := Scan.of_bind_ok scanned
  obtain ⟨_, fresh, opened, kept⟩ | ⟨other, _⟩ | ⟨other, _⟩ := Scan.step_brackets stepped
  · have unclosed : s.closed = false := by
      have first := Scan.opened_of_closed before nofun
      rw [fresh] at first
      exact Bool.eq_false_iff.mpr fun closed => Bool.false_ne_true (first closed)
    by_contra absent
    obtain ⟨left, never⟩ := Scan.open_of_not_mem scanned opened (kept.trans unclosed) absent
    simp [Scan.mayEnd, left, never] at ends
  · exact absurd other (by decide)
  · exact absurd rfl other

/-! ### What stands before and behind a separator -/

variable {sep b : UInt8} {bs front rest : Bytes}

theorem afterLast_of_not_mem (absent : sep ∉ bs) : afterLast sep bs = bs := by
  rw [afterLast, Bytes.takeWhile_of_not_mem (mt List.mem_reverse.mp absent), List.reverse_reverse]

theorem afterLast_append (absent : sep ∉ rest) : afterLast sep (front ++ sep :: rest) = rest := by
  rw [afterLast, List.reverse_append, List.reverse_cons, List.append_assoc, List.singleton_append,
    Bytes.takeWhile_append (mt List.mem_reverse.mp absent), List.reverse_reverse]

theorem exists_afterLast (sep : UInt8) (bs : Bytes) :
    ∃ front, bs = front ++ afterLast sep bs ∧ sep ∉ afterLast sep bs := by
  refine ⟨(bs.reverse.dropWhile (· ≠ sep)).reverse, ?_, ?_⟩
  · rw [afterLast, ← List.reverse_append, List.takeWhile_append_dropWhile, List.reverse_reverse]
  · rw [afterLast, List.mem_reverse]
    exact Bytes.not_mem_takeWhile

/-- The last octet stands behind every other separator. -/
theorem mem_afterLast_concat (other : b ≠ sep) : b ∈ afterLast sep (bs ++ [b]) := by
  simp [afterLast, other]

/-! ### Hosts -/

/-- The host of an authority: an address in brackets, or a name without colons. -/
inductive IsHost : Bytes → Prop
  | address {inside : Bytes} (user : 0x40 ∉ inside) (closing : 0x5D ∉ inside) :
      IsHost (0x5B :: inside ++ [0x5D])
  | name {bs : Bytes} (user : 0x40 ∉ bs) (colon : 0x3A ∉ bs) (opening : bs.head? ≠ some 0x5B) :
      IsHost bs

theorem isHost_host (a : Authority) : IsHost a.host := by
  obtain ⟨front, split, user⟩ := exists_afterLast 0x40 a.octets
  unfold host hostOf
  dsimp only
  generalize afterLast 0x40 a.octets = rest at *
  split
  · rename_i opens
    obtain ⟨behind, rfl⟩ := List.head?_eq_some_iff.mp opens
    obtain ⟨inside, later, rfl, closing⟩ := List.eq_append_cons_of_mem (a.mem_closing split)
    have unclosed : (0x5D : UInt8) ∉ 0x5B :: inside := by simpa using closing
    rw [← List.cons_append, Bytes.takeWhile_append unclosed, Bytes.dropWhile_append unclosed]
    refine .address (fun member => user ?_) closing
    exact List.mem_cons_of_mem _ (List.mem_append_left _ member)
  · rename_i named
    have noUser : 0x40 ∉ rest.takeWhile (· ≠ 0x3A) := fun member =>
      user ((List.takeWhile_sublist _).subset member)
    refine .name noUser Bytes.not_mem_takeWhile ?_
    cases rest with
    | nil => exact named
    | cons first rest =>
      rw [List.takeWhile_cons]
      split
      · exact named
      · exact nofun

namespace IsHost

theorem not_mem_user (host : IsHost bs) : 0x40 ∉ bs := by
  cases host with
  | address user closing => simpa using user
  | name user colon opening => exact user

/-- The host ends where a port begins. -/
theorem hostOf_append (host : IsHost bs) (port : Bytes) (begins : ∀ b ∈ port.head?, b = 0x3A)
    (user : 0x40 ∉ port) : hostOf (bs ++ port) = bs := by
  have behindUser : afterLast 0x40 (bs ++ port) = bs ++ port :=
    afterLast_of_not_mem fun member => (List.mem_append.mp member).elim host.not_mem_user user
  unfold hostOf
  rw [behindUser]
  dsimp only
  cases host with
  | @address inside inUser closing =>
    have unclosed : (0x5D : UInt8) ∉ 0x5B :: inside := by simpa using closing
    have opens : (0x5B :: inside ++ [0x5D] ++ port).head? = some 0x5B := rfl
    rw [if_pos opens, List.append_assoc, List.singleton_append, Bytes.takeWhile_append unclosed,
      Bytes.dropWhile_append unclosed]
    rfl
  | name inUser colon opening =>
    cases port with
    | nil => rw [List.append_nil, if_neg opening, Bytes.takeWhile_of_not_mem colon]
    | cons first digits =>
      obtain rfl := begins first rfl
      have named : (bs ++ 0x3A :: digits).head? ≠ some 0x5B := by
        cases bs with
        | nil => exact of_decide_eq_true rfl
        | cons b bs => exact opening
      rw [if_neg named, Bytes.takeWhile_append colon]

/-- The colons of an address are behind no port. -/
theorem portOf_eq_none (host : IsHost bs) : portOf bs = none := by
  unfold portOf
  cases host with
  | @address inside user closing =>
    have closes : 0x5D ∈ afterLast 0x3A (0x5B :: inside ++ [0x5D]) :=
      mem_afterLast_concat (by decide)
    rw [Ascii.unsigned?_eq_none closes (by decide) (by decide), ite_self]
  | name user colon opening => exact if_neg (by simpa using colon)

end IsHost

theorem not_mem_toString {n : Nat} (foreign : Ascii.isDigit b = false) :
    b ∉ Utf8.encode (toString n) := fun member =>
  Bool.false_ne_true (foreign.symm.trans (Ascii.isDigit_of_mem_toString member))

theorem portOf_append {n : Nat} (small : n < 65536) :
    portOf (bs ++ 0x3A :: Utf8.encode (toString n)) = some n := by
  rw [portOf, if_pos (by simp), afterLast_append (not_mem_toString (by decide)),
    Ascii.unsigned?_toString small]

theorem lt_of_portOf {n : Nat} (port : portOf bs = some n) : n < 65536 := by
  unfold portOf at port
  split at port
  · exact Ascii.lt_of_unsigned? port
  · cases port

end Authority

/-- The port that the octets of an authority mean: theirs, or the one that the scheme implies. -/
def Scheme.portOf? (s : Scheme) (bs : Bytes) : Option Nat :=
  (Authority.portOf bs).or s.defaultPort?

end Http

namespace Draft

open Http

theorem encode_hostText (d : Draft) : Utf8.encode d.hostText = d.hostOctets :=
  Utf8.encode_asciiText fun b member => (d.isPlainText_hostOctets b member).1

/-- Host and port are read from the host of a request as from its authority, for every scheme, and
there is no user information in it. -/
theorem hostText_names_endpoint (d : Draft) :
    Authority.hostOf (Utf8.encode d.hostText) = d.authority.host ∧
      d.scheme.portOf? (Utf8.encode d.hostText) = d.scheme.portOf? d.authority.octets ∧
      0x40 ∉ Utf8.encode d.hostText := by
  have host := d.authority.isHost_host
  have bare : Authority.hostOf d.authority.host = d.authority.host := by
    simpa using host.hostOf_append [] nofun List.not_mem_nil
  rw [encode_hostText]
  unfold hostOctets Scheme.portOf?
  rw [show d.authority.port? = Authority.portOf d.authority.octets from rfl]
  cases port : Authority.portOf d.authority.octets with
  | none => exact ⟨bare, by rw [host.portOf_eq_none], host.not_mem_user⟩
  | some n =>
    dsimp only
    split
    · rename_i implied
      refine ⟨bare, ?_, host.not_mem_user⟩
      rw [host.portOf_eq_none, implied]
      rfl
    · have user : 0x40 ∉ 0x3A :: Utf8.encode (toString n) := by
        simpa using Authority.not_mem_toString (by decide)
      refine ⟨host.hostOf_append _ (fun b first => (Option.some.inj first).symm) user, ?_,
        fun member => ?_⟩
      · rw [Authority.portOf_append (Authority.lt_of_portOf port)]
      · exact (List.mem_append.mp member).elim host.not_mem_user user

end Draft

end RequestSigning
