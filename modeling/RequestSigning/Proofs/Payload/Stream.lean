import RequestSigning.Payload.Hash

/-!
# Payloads that are hashed twice

An interrupted read costs no more than itself, and reading moves a stream and changes nothing else.
So `HashRule.sha256_again`: what is found in a payload once is found again in what was left of it.
-/

namespace RequestSigning

namespace ByteStream

/-- The stream with no read interrupted any more. -/
def settled (s : ByteStream) : ByteStream := { s with interrupts := 0 }

theorem read_of_interrupts {s : ByteStream} (interrupted : 0 < s.interrupts) :
    s.read = (.interrupted, { s with interrupts := s.interrupts - 1 }) :=
  if_pos interrupted

/-- Wherever a settled stream stands, a read moves it on and does nothing else to it. -/
theorem read_settled {s t : ByteStream} {position : Nat} {r : ReadResult}
    (run : { s.settled with position := position }.read = (r, t)) :
    ∃ next, t = { s.settled with position := next } := by
  unfold read at run
  split at run
  · rename_i interrupted
    exact absurd interrupted (Nat.lt_irrefl 0)
  · split at run
    · cases run
      exact ⟨position, rfl⟩
    · cases run
      exact ⟨_, rfl⟩

/-- Every interrupted read takes one unit of the fuel. -/
theorem drainWithin_interrupts (s : ByteStream) (fuel : Nat) (seen : Array UInt8) :
    drainWithin (s.interrupts + fuel) seen s = drainWithin fuel seen s.settled := by
  cases s with
  | mk data position limit interrupts failsAt canRewind canTell =>
    dsimp only
    induction interrupts with
    | zero =>
      rw [Nat.zero_add]
      rfl
    | succ n ih =>
      rw [Nat.add_right_comm, drainWithin, read_of_interrupts (Nat.succ_pos n)]
      exact ih

/-- The fuel of a whole reading is enough for its interruptions, whatever their number. -/
theorem drain_settled (s : ByteStream) : s.settled.drain = s.drain := by
  rw [drain, drain, Nat.add_assoc s.interrupts, drainWithin_interrupts, Nat.add_assoc]
  exact congrArg (drainWithin · #[] s.settled) (Nat.zero_add _)

theorem drainWithin_moves {s : ByteStream} (fuel : Nat) (seen : Array UInt8) (position : Nat) :
    ∃ next, (drainWithin fuel seen { s.settled with position := position }).2 =
      { s.settled with position := next } := by
  induction fuel generalizing seen position with
  | zero => exact ⟨position, rfl⟩
  | succ fuel ih =>
    rw [drainWithin]
    split
    · rename_i run
      obtain ⟨next, rfl⟩ := read_settled run
      exact ih seen next
    · rename_i run
      exact read_settled run
    · rename_i run
      exact read_settled run
    · rename_i run
      obtain ⟨next, rfl⟩ := read_settled run
      exact ih _ next

theorem drain_moves (s : ByteStream) : ∃ next, s.drain.2 = { s.settled with position := next } := by
  rw [← drain_settled]
  exact drainWithin_moves _ #[] s.position

theorem rewind_drain (s : ByteStream) :
    s.drain.2.rewind s.position =
      if s.canRewind then (.ok (), s.settled) else (.error .rewind, s.drain.2) := by
  obtain ⟨next, moved⟩ := s.drain_moves
  rw [moved]
  rfl

end ByteStream

namespace Payload

/-- Behind its digest a stream stands where it stood. -/
theorem hashStream_ok_iff {s t : ByteStream} {hash : String} :
    hashStream s = (.ok hash, t) ↔
      s.canTell = true ∧ s.canRewind = true ∧ s.drain.1.map hexSha256 = .ok hash ∧
        t = s.settled := by
  simp only [hashStream, ByteStream.hash, ByteStream.tell]
  by_cases tells : s.canTell = true
  · rw [if_pos tells]
    dsimp only
    rw [s.rewind_drain]
    by_cases rewinds : s.canRewind = true
    · rw [if_pos rewinds]
      cases s.drain.1 with
      | error fault => simp [Except.map]
      | ok octets => simp [Except.map, tells, rewinds, eq_comm]
    · rw [if_neg rewinds]
      cases s.drain.1 with
      | error fault => simp [Except.map]
      | ok octets => simp [Except.map, rewinds]
  · rw [if_neg tells]
    simp [tells]

theorem hashStream_again {s t : ByteStream} {hash : String} (hashed : hashStream s = (.ok hash, t)) :
    hashStream t = (.ok hash, t) := by
  obtain ⟨tells, rewinds, digest, rfl⟩ := hashStream_ok_iff.mp hashed
  rw [← s.drain_settled] at digest
  exact hashStream_ok_iff.mpr ⟨tells, rewinds, digest, rfl⟩

end Payload

/-- A payload that was hashed is hashed to the same text again, whatever the drafts. -/
theorem HashRule.sha256_again {d : Draft} {payload : Payload} {hash : String}
    (hashed : (HashRule.sha256.hash d payload).1 = .ok hash) (e : Draft) :
    (HashRule.sha256.hash e (HashRule.sha256.hash d payload).2.2).1 = .ok hash := by
  cases payload with
  | stream s =>
    have run : Payload.hashStream s = (.ok hash, (Payload.hashStream s).2) := Prod.ext hashed rfl
    exact congrArg Prod.fst (Payload.hashStream_again run)
  | empty | octets _ | precomputed _ | unsigned => exact hashed

end RequestSigning
