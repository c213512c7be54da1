import RequestSigning.Encoding.Percent

/-!
# Canonical path and query

A path keeps the `%XX` it has and encodes what stands bare; a service that decodes twice gets it
encoded once more.  A query is encoded pair by pair and sorted.
-/

namespace RequestSigning.Canonical

/-- What a path that may hold `%XX` keeps. -/
def keepsPath (b : UInt8) : Bool := Percent.isUnreserved b || b == 0x2F || b == 0x25

/-- What a path that is encoded once more keeps. -/
def keepsEncodedPath (b : UInt8) : Bool := Percent.isUnreserved b || b == 0x2F

/-- The canonical path; no path at all means the root. -/
def path (text : String) (double : Bool) : String :=
  if text = "" then "/"
  else
    let once := Percent.encode keepsPath text
    if double then Percent.encode keepsEncodedPath once else once

def pairLe (p q : String × String) : Bool := p.1 < q.1 || (p.1 == q.1 && p.2 ≤ q.2)

/-- Key and value with everything but unreserved octets encoded. -/
def encodePair (p : String × String) : String × String :=
  (Percent.encode Percent.isUnreserved p.1, Percent.encode Percent.isUnreserved p.2)

/-- The pairs encoded and sorted; an empty value keeps its `=`. -/
def query (pairs : List (String × String)) : String :=
  "&".intercalate (((pairs.map encodePair).mergeSort pairLe).map fun p => p.1 ++ "=" ++ p.2)

end RequestSigning.Canonical
