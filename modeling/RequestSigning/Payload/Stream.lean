import RequestSigning.Hash.Hmac

/-!
# Streams of octets

A stream yields its octets in pieces, from a position that can be asked for and set.  `drain`
reads to the end, over reads that were merely interrupted.
-/

namespace RequestSigning

inductive StreamFault
  | read
  | rewind
  | position
  deriving DecidableEq, Repr

def StreamFault.message : StreamFault → String
  | .read => "read failed"
  | .rewind => "rewind not supported"
  | .position => "position unavailable"

/-- A stream of octets and its behaviour. -/
structure ByteStream where
  data : Array UInt8
  position : Nat
  /-- The most octets that a read yields, if there is a limit. -/
  limit : Option Nat
  /-- How many reads are still interrupted. -/
  interrupts : Nat
  /-- Where reads fail. -/
  failsAt : Option Nat
  canRewind : Bool
  canTell : Bool
  deriving DecidableEq, Repr

inductive ReadResult
  | interrupted
  | failed
  | piece (octets : Bytes)
  deriving DecidableEq, Repr

namespace ByteStream

/-- How many octets the next read yields. -/
def available (s : ByteStream) : Nat :=
  let left := s.data.size - s.position
  let left := s.failsAt.elim left fun f => min left (f - s.position)
  s.limit.elim left fun n => min left n

/-- One read.  A position beyond the data reads nothing. -/
def read (s : ByteStream) : ReadResult × ByteStream :=
  if 0 < s.interrupts then (.interrupted, { s with interrupts := s.interrupts - 1 })
  else if s.failsAt.any (· ≤ s.position) then (.failed, s)
  else
    (.piece (s.data.extract s.position (s.position + s.available)).toList,
      { s with position := s.position + s.available })

/-- Reads until a read yields nothing or fails; at most `fuel` reads.  `seen` is what the reads
before yielded. -/
def drainWithin : Nat → Array UInt8 → ByteStream → Except StreamFault Bytes × ByteStream
  | 0, seen, s => (.ok seen.toList, s)
  | fuel + 1, seen, s =>
    match s.read with
    | (.interrupted, t) => drainWithin fuel seen t
    | (.failed, t) => (.error .read, t)
    | (.piece [], t) => (.ok seen.toList, t)
    | (.piece octets, t) => drainWithin fuel (seen ++ octets) t

def drain (s : ByteStream) : Except StreamFault Bytes × ByteStream :=
  drainWithin (s.interrupts + (s.data.size - s.position) + 1) #[] s

def hash (s : ByteStream) : Except StreamFault String × ByteStream :=
  (s.drain.1.map hexSha256, s.drain.2)

/-- The position, if the stream can tell it. -/
def tell (s : ByteStream) : Except StreamFault Nat :=
  if s.canTell then .ok s.position else .error .position

def rewind (s : ByteStream) (position : Nat) : Except StreamFault Unit × ByteStream :=
  if s.canRewind then (.ok (), { s with position := position }) else (.error .rewind, s)

end ByteStream

end RequestSigning
