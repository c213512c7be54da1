import RequestSigning.Http.Header

/-!
# Canonical header fields

The names that are signed, sorted and without repetition, and for each of them its values with
compacted whitespace.
-/

namespace RequestSigning.Canonical

open Http

/-- ASCII whitespace: tab, line feed, form feed, carriage return and space. -/
def isSpace (b : UInt8) : Bool := b == 0x09 || b == 0x0A || b == 0x0C || b == 0x0D || b == 0x20

def compact (bs : Bytes) : Bytes :=
  Bytes.join 0x20 ((Bytes.splitWhen isSpace bs).filter (· ≠ []))

/-- Whether a field is left out of signing, because proxies may add or change it. -/
def isExcluded (n : HeaderName) : Bool := n == .connection || n == .traceId

/-- Each member once, where it stands first. -/
def distinct {α : Type} [DecidableEq α] : List α → List α
  | [] => []
  | x :: xs => x :: (distinct xs).filter (· ≠ x)

def nameLe (m n : HeaderName) : Bool := m.octets ≤ n.octets

def signedNames (h : Headers) : List HeaderName :=
  (distinct ((h.fields.map (·.name)).filter (!isExcluded ·))).mergeSort nameLe

def signedText (h : Headers) : String := ";".intercalate ((signedNames h).map HeaderName.text)

/-- A name and a compacted value for each value of each signed name. -/
def fields (h : Headers) : List (HeaderName × Bytes) :=
  (signedNames h).flatMap fun n => (h.values n).map fun v => (n, compact v.octets)

end RequestSigning.Canonical
