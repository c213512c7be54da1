import RequestSigning.Http.Message
import RequestSigning.Time.Duration

/-!
# Sending requests

A transport answers each request with the next entry of its script and remembers what it was
asked.
-/

namespace RequestSigning.Http

/-- What a request is answered with, and how long that takes. -/
structure Exchange where
  outcome : Except Error Response
  takes : Duration

structure Transport where
  /-- The answers to come, or nothing where no client is configured. -/
  script : Option (List Exchange)
  sent : List Request

namespace Transport

def unset : Transport := ⟨none, []⟩

/-- Send a request: the answer, and the transport afterwards. -/
def send (t : Transport) (r : Request) : Exchange × Transport :=
  match t.script with
  | none =>
    (⟨.error (.new .unexpected "HTTP sending not supported: no HTTP client configured"), .zero⟩, t)
  | some [] => (⟨.error (.new .unexpected "no more responses"), .zero⟩, ⟨some [], t.sent ++ [r]⟩)
  | some (e :: rest) => (e, ⟨some rest, t.sent ++ [r]⟩)

end Transport

end RequestSigning.Http
