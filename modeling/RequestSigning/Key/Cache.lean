import RequestSigning.Key.Derivation
import RequestSigning.Log

/-!
# Signing-key cache

A bounded cache of signing keys.  A key has a slot for its scope and day; when the cache is full,
the slot that came first goes first, however often it was asked for.
-/

namespace RequestSigning

/-- Where a key is kept: the digest of the secret with region and service, and the day. -/
structure Slot where
  scope : String
  day : Int
  deriving DecidableEq, Repr

def Slot.of (secret : String) (time : Instant) (region service : String) : Slot :=
  ⟨hexSha256 (Utf8.encode secret) ++ "-" ++ region ++ "-" ++ service, time.days⟩

/-- Keys by slot, and the slots in the order they came in. -/
structure KeyCache where
  capacity : Nat
  entries : List (Slot × Bytes)
  order : List Slot
  deriving DecidableEq, Repr

namespace KeyCache

/-- An empty cache; a cache holds at least one key. -/
def new (capacity : Nat) : KeyCache := ⟨max capacity 1, [], []⟩

/-- The capacity where none is asked for. -/
def defaultCapacity : Nat := 300

def get? (c : KeyCache) (s : Slot) : Option Bytes := (c.entries.find? (·.1 = s)).map (·.2)

/-- Drop the oldest slots until there is room for one more. -/
def makeRoom (capacity : Nat) : List Slot → List (Slot × Bytes) → List Slot × List (Slot × Bytes)
  | [], entries => ([], entries)
  | oldest :: order, entries =>
    if capacity ≤ order.length + 1 then
      makeRoom capacity order (entries.filter (·.1 ≠ oldest))
    else (oldest :: order, entries)

def insert (c : KeyCache) (s : Slot) (key : Bytes) : KeyCache :=
  let room := makeRoom c.capacity c.order c.entries
  { c with order := room.1 ++ [s], entries := room.2 ++ [(s, key)] }

def missEntry (region service : String) (day : Int) : Log.Entry :=
  .debug ("signing key cache miss for region " ++ region ++ ", service " ++ service ++ ", day " ++
    toString day)

/-- The signing key: the one in its slot, or else a derived one that is kept from now on. -/
def signingKey (c : KeyCache) (secret : String) (time : Instant) (region service : String) :
    Bytes × KeyCache × List Log.Entry :=
  let slot := Slot.of secret time region service
  match c.get? slot with
  | some key => (key, c, [])
  | none =>
    let key := RequestSigning.signingKey secret time region service
    (key, c.insert slot key, [missEntry region service slot.day])

def size (c : KeyCache) : Nat := c.entries.length

def clear (c : KeyCache) : KeyCache := { c with entries := [], order := [] }

def summary (c : KeyCache) : String :=
  "SigningKeyCache \x7b capacity: " ++ toString c.capacity ++ ", len: " ++ toString c.size ++
    " \x7d"

end KeyCache

end RequestSigning
