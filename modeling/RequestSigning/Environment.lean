import RequestSigning.Text.Utf8

/-!
# Environments

Names with values as octets; a value that is not UTF-8 counts as absent.  Of several values of a
name the last one counts.
-/

namespace RequestSigning

structure Environment where
  entries : List (String × Bytes)

namespace Environment

def empty : Environment := ⟨[]⟩

def ofPairs (pairs : List (String × String)) : Environment :=
  ⟨pairs.map fun p => (p.1, Utf8.encode p.2)⟩

def octets? (e : Environment) (name : String) : Option Bytes :=
  (e.entries.reverse.find? (·.1 = name)).map (·.2)

def get? (e : Environment) (name : String) : Option String :=
  (e.octets? name).bind Utf8.decode?

/-- All entries, each name once, if every value is text. -/
def all? (e : Environment) : Option (List (String × String)) :=
  let names := e.entries.map (·.1)
  (names.eraseDups.mapM fun name => (e.get? name).map fun value => (name, value))

end Environment

end RequestSigning
