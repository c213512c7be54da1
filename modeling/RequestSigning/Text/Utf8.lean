import RequestSigning.Bytes

/-!
# UTF-8

`scan` reads octets one at a time and yields a character for each well-formed sequence and `none`
for each maximal ill-formed piece.  `decode?` wants no ill-formed piece, `decodeLossy` writes
U+FFFD for every one.
-/

namespace RequestSigning.Utf8

def encode (s : String) : Bytes := s.toList.flatMap String.utf8EncodeChar

/-- A character of which some octets are still owed: how many, between which bounds the next one
has to lie, and the value collected so far. -/
structure Pending where
  owed : Nat
  least : UInt8
  greatest : UInt8
  value : Nat
  deriving DecidableEq, Repr

/-- The first octet of a character. -/
def start (b : UInt8) : List (Option Char) × Option Pending :=
  if b ≤ 0x7F then ([some (Char.ofNat b.toNat)], none)
  else if 0xC2 ≤ b ∧ b ≤ 0xDF then ([], some ⟨1, 0x80, 0xBF, b.toNat - 0xC0⟩)
  else if b = 0xE0 then ([], some ⟨2, 0xA0, 0xBF, 0⟩)
  else if b = 0xED then ([], some ⟨2, 0x80, 0x9F, 0xD⟩)
  else if 0xE1 ≤ b ∧ b ≤ 0xEF then ([], some ⟨2, 0x80, 0xBF, b.toNat - 0xE0⟩)
  else if b = 0xF0 then ([], some ⟨3, 0x90, 0xBF, 0⟩)
  else if 0xF1 ≤ b ∧ b ≤ 0xF3 then ([], some ⟨3, 0x80, 0xBF, b.toNat - 0xF0⟩)
  else if b = 0xF4 then ([], some ⟨3, 0x80, 0x8F, 4⟩)
  else ([none], none)

/-- One octet: what it completes, and the character it leaves open. -/
def step : Option Pending → UInt8 → List (Option Char) × Option Pending
  | none, b => start b
  | some p, b =>
    if p.least ≤ b ∧ b ≤ p.greatest then
      let value := p.value * 64 + (b.toNat - 0x80)
      if p.owed ≤ 1 then ([some (Char.ofNat value)], none)
      else ([], some ⟨p.owed - 1, 0x80, 0xBF, value⟩)
    else (none :: (start b).1, (start b).2)

/-- Characters, with `none` for each maximal ill-formed piece. -/
def scan : Option Pending → Bytes → List (Option Char)
  | none, [] => []
  | some _, [] => [none]
  | open?, b :: rest => (step open? b).1 ++ scan (step open? b).2 rest

/-- The text of well-formed octets. -/
def decode? (bs : Bytes) : Option String :=
  ((scan none bs).mapM id).map String.ofList

/-- The text of any octets; each maximal ill-formed piece reads as U+FFFD. -/
def decodeLossy (bs : Bytes) : String :=
  String.ofList ((scan none bs).map (·.getD '\uFFFD'))

end RequestSigning.Utf8
