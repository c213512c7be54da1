/-!
# Redacted text

What may be shown of a secret.
-/

namespace RequestSigning.Text

/-- Nothing reads `EMPTY`; fewer than twelve characters are hidden; of a longer secret the first
and the last three show, so that two keys can still be told apart. -/
def redact (s : String) : String :=
  let cs := s.toList
  if cs.length = 0 then "EMPTY"
  else if cs.length < 12 then "***"
  else String.ofList (cs.take 3 ++ ['*', '*', '*'] ++ cs.drop (cs.length - 3))

end RequestSigning.Text
