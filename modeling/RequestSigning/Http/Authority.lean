import RequestSigning.Http.Fault
import RequestSigning.Text.Ascii
import RequestSigning.Text.Utf8

/-!
# Authorities

The part of a uri between the scheme and the path: user information, host and port.  `scan`
checks the octets one by one; what it counts is forgotten behind a user information or a bracketed
address.
-/

namespace RequestSigning.Http

structure Scan where
  colons : Nat
  opened : Bool
  closed : Bool
  percent : Bool
  deriving DecidableEq, Repr

/-- The octets of an authority that need no watching. -/
def isPlainByte (b : UInt8) : Bool :=
  Ascii.isAlphanumeric b ||
    [0x21, 0x24, 0x26, 0x27, 0x28, 0x29, 0x2A, 0x2B, 0x2C, 0x2D, 0x2E,
      0x3B, 0x3D, 0x5F, 0x7E].contains b

namespace Scan

def initial : Scan := ⟨0, false, false, false⟩

/-- One octet.  Eight colons fit, as an address of eight groups with a port has. -/
def step (s : Scan) (b : UInt8) : Except Fault Scan :=
  if b = 0x3A then
    if 8 ≤ s.colons then .error .authority else .ok { s with colons := s.colons + 1 }
  else if b = 0x5B then
    if s.percent || s.opened then .error .authority else .ok { s with opened := true }
  else if b = 0x5D then
    if !s.opened || s.closed then .error .authority
    else .ok { s with closed := true, colons := 0, percent := false }
  else if b = 0x40 then .ok { s with colons := 0, percent := false }
  else if b = 0x25 then .ok { s with percent := true }
  else if isPlainByte b then .ok s
  else .error .uriChar

def mayEnd (s : Scan) : Bool := s.opened == s.closed && s.colons ≤ 1 && !s.percent

end Scan

def authorityFault? (bs : Bytes) : Option Fault :=
  match bs.foldlM Scan.step Scan.initial with
  | .error f => some f
  | .ok s => if s.mayEnd && bs.getLast? != some 0x40 then none else some .authority

def isAuthority (bs : Bytes) : Bool := !bs.isEmpty && (authorityFault? bs).isNone

/-- User information, host and port. -/
structure Authority where
  octets : Bytes
  isAuthority : isAuthority octets = true
  deriving DecidableEq

namespace Authority

/-- The authority of a text that is known to be one. -/
def named (text : String) (h : Http.isAuthority (Utf8.encode text) = true := by decide) :
    Authority := ⟨Utf8.encode text, h⟩

/-- Everything behind the last `sep`, or everything. -/
def afterLast (sep : UInt8) (bs : Bytes) : Bytes := (bs.reverse.takeWhile (· ≠ sep)).reverse

/-- The host: what follows the user information, to the closing bracket of an address or to the
first colon. -/
def hostOf (bs : Bytes) : Bytes :=
  let rest := afterLast 0x40 bs
  if rest.head? = some 0x5B then rest.takeWhile (· ≠ 0x5D) ++ (rest.dropWhile (· ≠ 0x5D)).take 1
  else rest.takeWhile (· ≠ 0x3A)

/-- The port: a number below 65536 behind the last colon. -/
def portOf (bs : Bytes) : Option Nat :=
  if bs.contains 0x3A then Ascii.unsigned? 65536 (afterLast 0x3A bs) else none

def ofBytes? (bs : Bytes) : Except Fault Authority :=
  if h : Http.isAuthority bs = true then .ok ⟨bs, h⟩
  else if bs = [] then .error .uriEmpty
  else .error ((authorityFault? bs).getD .authority)

/-- The octets before a `/`, `?` or `#`, and those from there on. -/
def span (bs : Bytes) : Bytes × Bytes :=
  let isEnd := fun b : UInt8 => b == 0x2F || b == 0x3F || b == 0x23
  (bs.takeWhile (!isEnd ·), bs.dropWhile (!isEnd ·))

def parse? (bs : Bytes) : Except Fault Authority :=
  if bs = [] then .error .uriEmpty
  else
    match authorityFault? (span bs).1 with
    | some f => .error f
    | none => if (span bs).2 = [] then ofBytes? bs else .error .uriChar

def text (a : Authority) : String := Ascii.text a.octets

def host (a : Authority) : Bytes := hostOf a.octets

def port? (a : Authority) : Option Nat := portOf a.octets

end Authority

end RequestSigning.Http
