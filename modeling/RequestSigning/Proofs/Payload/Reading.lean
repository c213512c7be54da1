import RequestSigning.Proofs.Payload.Stream

/-!
# Digests of streams

`read_cases` is all that a read can do, and from it `drain_eq`: however short the reads are and
however many are interrupted, a stream is read from where it stands to its end, unless a read fails
before.  So `HashRule.sha256_stream`: the digest of a stream is the digest of these octets, and
wherever the way back works the stream stands where it stood.
-/

namespace RequestSigning

namespace ByteStream

/-- The octets from where the stream stands to its end; none where it stands beyond. -/
def rest (s : ByteStream) : Bytes := s.data.toList.drop s.position

/-- The stream behind a read that nothing stops. -/
def moved (s : ByteStream) : ByteStream := { s with position := s.position + s.available }

/-- Whether the position at which reads fail is not behind the last one that is read. -/
def reachesFault (s : ByteStream) : Bool := s.failsAt.any (· ≤ max s.position s.data.size)

/-- Reading goes on from one stream to the other: over interrupted reads, and over reads that yield
something. -/
inductive ReadsOn : ByteStream → ByteStream → Prop
  | here (s : ByteStream) : ReadsOn s s
  | interrupted {s t u : ByteStream} (read : s.read = (.interrupted, t)) (later : ReadsOn t u) :
    ReadsOn s u
  | piece {s t u : ByteStream} {b : UInt8} {bs : Bytes} (read : s.read = (.piece (b :: bs), t))
    (later : ReadsOn t u) : ReadsOn s u

/-- A read fails before the end is reached. -/
def ReadFails (s : ByteStream) : Prop := ∃ t u, ReadsOn s t ∧ t.read = (.failed, u)

variable {s t : ByteStream}

/-! ### One read -/

/-- No read goes beyond the end, nor to where reads fail. -/
theorem available_le (s : ByteStream) :
    s.available ≤ s.data.size - s.position ∧
      ∀ f, s.failsAt = some f → s.available ≤ f - s.position := by
  unfold available
  cases s.failsAt <;> cases s.limit <;> simp <;> omega

theorem available_eq_zero (limited : s.limit ≠ some 0) (empty : s.available = 0) :
    s.data.size ≤ s.position ∨ ∃ f, s.failsAt = some f ∧ f ≤ s.position := by
  unfold available at empty
  cases fault : s.failsAt <;> cases limit : s.limit <;> simp_all <;> omega

theorem toList_extract (s : ByteStream) (n : Nat) :
    (s.data.extract s.position (s.position + n)).toList = s.rest.take n := by
  rw [Array.toList_extract, rest, List.extract_eq_take_drop, Nat.add_sub_cancel_left]

theorem reachesFault_moved (read : 0 < s.available) :
    s.moved.reachesFault = s.reachesFault := by
  have inside := s.available_le.1
  have same : max (s.position + s.available) s.data.size = max s.position s.data.size := by omega
  exact congrArg (fun last => s.failsAt.any (· ≤ last)) same

/-- All that a read can do. -/
theorem read_cases (s : ByteStream) :
    (0 < s.interrupts ∧ s.read = (.interrupted, { s with interrupts := s.interrupts - 1 })) ∨
    (s.interrupts = 0 ∧ s.failsAt.any (· ≤ s.position) = true ∧ s.read = (.failed, s)) ∨
    (s.interrupts = 0 ∧ s.failsAt.any (· ≤ s.position) = false ∧
      s.read = (.piece (s.rest.take s.available), s.moved)) := by
  unfold read
  split
  · rename_i interrupted
    exact .inl ⟨interrupted, rfl⟩
  · rename_i quiet
    right
    split
    · rename_i fault
      exact .inl ⟨by omega, fault, rfl⟩
    · rename_i sound
      rw [toList_extract]
      exact .inr ⟨by omega, Bool.eq_false_iff.mpr sound, rfl⟩

theorem of_read_interrupted (read : s.read = (.interrupted, t)) :
    t = { s with interrupts := s.interrupts - 1 } := by
  obtain ⟨_, done⟩ | ⟨_, _, done⟩ | ⟨_, _, done⟩ := s.read_cases <;> cases read.symm.trans done
  rfl

theorem of_read_failed (read : s.read = (.failed, t)) :
    s.failsAt.any (· ≤ s.position) = true := by
  obtain ⟨_, done⟩ | ⟨_, fault, done⟩ | ⟨_, _, done⟩ := s.read_cases <;> cases read.symm.trans done
  exact fault

theorem of_read_piece {octets : Bytes} (read : s.read = (.piece octets, t)) :
    octets = s.rest.take s.available ∧ t = s.moved := by
  obtain ⟨_, done⟩ | ⟨_, _, done⟩ | ⟨_, _, done⟩ := s.read_cases <;> cases read.symm.trans done
  exact ⟨rfl, rfl⟩

theorem drop_available (s : ByteStream) : s.rest.drop s.available = s.moved.rest :=
  List.drop_drop

theorem reachesFault_of_here (fault : s.failsAt.any (· ≤ s.position) = true) :
    s.reachesFault = true := by
  obtain ⟨f, position, le⟩ := (Option.any_eq_true _ _).mp fault
  refine (Option.any_eq_true _ _).mpr ⟨f, position, ?_⟩
  simp only [decide_eq_true_eq] at le ⊢
  omega

theorem take_available_ne_nil (read : 0 < s.available) : s.rest.take s.available ≠ [] := by
  have inside := s.available_le.1
  have length : (s.rest.take s.available).length = s.available := by
    rw [List.length_take, rest, List.length_drop, Array.length_toList]
    omega
  intro empty
  rw [empty, List.length_nil] at length
  omega

/-- Where nothing is left to read and no read has failed, none will. -/
theorem reachesFault_of_empty (limited : s.limit ≠ some 0) (empty : s.available = 0)
    (sound : s.failsAt.any (· ≤ s.position) = false) :
    s.reachesFault = false ∧ s.rest = [] := by
  have beyond : s.data.size ≤ s.position := by
    refine (available_eq_zero limited empty).resolve_right ?_
    rintro ⟨f, position, le⟩
    rw [position] at sound
    simp at sound
    omega
  constructor
  · rw [reachesFault, Nat.max_eq_left beyond]
    exact sound
  · exact List.drop_eq_nil_of_le (by simpa using beyond)

/-! ### Reading to the end -/

/-- A stream that no read interrupts is read to its end by enough reads. -/
theorem drainWithin_eq {fuel : Nat} {seen : Array UInt8} (quiet : s.interrupts = 0)
    (limited : s.limit ≠ some 0) (enough : s.data.size - s.position < fuel) :
    (drainWithin fuel seen s).1 =
      if s.reachesFault then .error .read else .ok (seen.toList ++ s.rest) := by
  induction fuel generalizing seen s with
  | zero => omega
  | succ fuel ih =>
    rw [drainWithin]
    obtain ⟨interrupted, _⟩ | ⟨_, fault, read⟩ | ⟨_, sound, read⟩ := s.read_cases
    · omega
    · rw [read, if_pos (reachesFault_of_here fault)]
    · rw [read]
      by_cases empty : s.available = 0
      · obtain ⟨unreached, nothing⟩ := reachesFault_of_empty limited empty sound
        rw [nothing, unreached, List.take_nil, List.append_nil]
        rfl
      · have filled : 0 < s.available := Nat.pos_of_ne_zero empty
        have fewer : s.moved.data.size - s.moved.position < fuel := by
          have inside := s.available_le.1
          dsimp only [moved]
          omega
        obtain ⟨b, bs, piece⟩ := List.exists_cons_of_ne_nil (take_available_ne_nil filled)
        have later : s.rest = (b :: bs) ++ s.moved.rest := by
          rw [← piece, ← drop_available, List.take_append_drop]
        have gathered : (seen ++ (b :: bs)).toList = seen.toList ++ (b :: bs) :=
          Array.toList_appendList
        rw [piece]
        dsimp only
        rw [later, ← List.append_assoc, ← gathered, ← reachesFault_moved filled]
        exact ih quiet limited fewer

theorem drain_eq (limited : s.limit ≠ some 0) :
    s.drain.1 = if s.reachesFault then .error .read else .ok s.rest := by
  rw [← s.drain_settled]
  exact drainWithin_eq rfl limited (Nat.lt_succ_of_le (Nat.le_add_left _ _))

/-! ### Reads that fail -/

theorem reachesFault_of_readsOn (reads : ReadsOn s t) : s.reachesFault = t.reachesFault := by
  induction reads with
  | here => rfl
  | @interrupted s t u read later ih =>
    rw [← ih, of_read_interrupted read]
    rfl
  | @piece s t u b bs read later ih =>
    obtain ⟨octets, rfl⟩ := of_read_piece read
    have filled : 0 < s.available := by
      refine Nat.pos_of_ne_zero fun empty => ?_
      rw [empty, List.take_zero] at octets
      cases octets
    rw [← ih, reachesFault_moved filled]

theorem readFails_of_drainWithin {fuel : Nat} {seen : Array UInt8} {fault : StreamFault}
    (failed : (drainWithin fuel seen s).1 = .error fault) : s.ReadFails := by
  induction fuel generalizing seen s with
  | zero => cases failed
  | succ fuel ih =>
    rw [drainWithin] at failed
    split at failed
    · rename_i read
      obtain ⟨t, u, reads, last⟩ := ih failed
      exact ⟨t, u, .interrupted read reads, last⟩
    · rename_i read
      exact ⟨s, _, .here s, read⟩
    · cases failed
    · rename_i octets t nonempty read
      obtain ⟨u, w, reads, last⟩ := ih failed
      obtain ⟨b, bs, rfl⟩ := List.exists_cons_of_ne_nil nonempty
      exact ⟨u, w, .piece read reads, last⟩

/-- Whether a read fails depends neither on how the reads are split nor on their interruptions. -/
theorem readFails_iff (limited : s.limit ≠ some 0) : s.ReadFails ↔ s.reachesFault = true := by
  constructor
  · rintro ⟨t, u, reads, last⟩
    rw [reachesFault_of_readsOn reads]
    exact reachesFault_of_here (of_read_failed last)
  · intro fault
    have failed := drain_eq limited
    rw [if_pos fault] at failed
    exact readFails_of_drainWithin failed

end ByteStream

namespace Payload

open ByteStream

/-- A failed read counts for more than a failed way back. -/
theorem hashStream_eq {s : ByteStream} (limited : s.limit ≠ some 0) (tells : s.canTell = true) :
    hashStream s =
      (if s.reachesFault then .error (streamError "unable to read payload stream" .read)
        else if s.canRewind then .ok (hexSha256 s.rest)
        else .error (streamError "unable to reset stream after calculating AWS4 signature" .rewind),
        if s.canRewind then s.settled else s.drain.2) := by
  simp only [hashStream, ByteStream.hash, ByteStream.tell, tells, if_true, s.rewind_drain,
    drain_eq limited]
  cases s.reachesFault <;> cases s.canRewind <;> rfl

end Payload

open Payload ByteStream

/-- The digest of a stream that can tell its position.  It is the digest of the octets from there
on, as if they were in memory, exactly if no read fails and the way back works; whether one fails is
a matter of positions and not of how the reads are split.  A failed read is reported even where the
way back fails too; a failed way back alone is not worth another attempt.  Where the way back works,
the stream stands where it stood, whether or not a read failed. -/
theorem HashRule.sha256_stream (s : ByteStream) (limited : s.limit ≠ some 0)
    (tells : s.canTell = true) :
    ∃ result t, (∀ d, HashRule.sha256.hash d (.stream s) = (result, d, .stream t)) ∧
      (∀ d, (HashRule.sha256.hash d (.octets s.rest)).1 = .ok (hexSha256 s.rest)) ∧
      (result = .ok (hexSha256 s.rest) ↔ ¬s.ReadFails ∧ s.canRewind = true) ∧
      (s.ReadFails ↔ s.reachesFault = true) ∧
      (s.ReadFails → result = .error (streamError "unable to read payload stream" .read)) ∧
      (¬s.ReadFails → s.canRewind = false → ∃ e, result = .error e ∧
        e.message = "unable to reset stream after calculating AWS4 signature" ∧
        e.kind = .unexpected ∧ e.retryable = false) ∧
      (s.canRewind = true → t = { s with interrupts := 0 }) := by
  refine ⟨(hashStream s).1, (hashStream s).2, fun d => rfl, fun d => rfl, ?_⟩
  rw [hashStream_eq limited tells, readFails_iff limited]
  refine ⟨?ok, .rfl, fun failed => if_pos failed, fun passed stuck => ?stuck,
    fun rewinds => if_pos rewinds⟩
  case ok => cases s.reachesFault <;> cases s.canRewind <;> simp
  case stuck =>
    dsimp only
    rw [if_neg passed, stuck]
    exact ⟨_, rfl, rfl, rfl, rfl⟩

/-- A stream whose first two reads are interrupted and which yields one octet at a time.  Reads fail
behind its end only. -/
def ByteStream.dripping : ByteStream := ⟨#[0x61, 0x62, 0x63], 1, some 1, 2, some 4, true, true⟩

theorem HashRule.sha256_stream_dripping :
    dripping.limit ≠ some 0 ∧ dripping.canTell = true ∧ dripping.canRewind = true ∧
      ∀ d, HashRule.sha256.hash d (.stream dripping) =
        (.ok (hexSha256 [0x62, 0x63]), d, .stream { dripping with interrupts := 0 }) := by
  have limited : dripping.limit ≠ some 0 := by decide
  have sound : ¬dripping.ReadFails := by
    rw [readFails_iff limited]
    decide
  obtain ⟨_, _, run, _, ok, _, _, _, back⟩ := HashRule.sha256_stream dripping limited rfl
  refine ⟨limited, rfl, rfl, fun d => ?_⟩
  rw [run d, ok.mpr ⟨sound, rfl⟩, back rfl]
  rfl

end RequestSigning
