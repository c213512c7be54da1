import RequestSigning.Payload.Stream
import RequestSigning.Draft
import RequestSigning.Text.Quoted

/-!
# Payloads and their hashes

What a request carries, and the text that stands for it in the canonical request.  A stream is
read to its end and put back to where it was.
-/

namespace RequestSigning

inductive Payload
  | empty
  | octets (data : Bytes)
  | stream (s : ByteStream)
  /-- A hash or marker that is used as it is. -/
  | precomputed (hash : String)
  | unsigned
  deriving DecidableEq, Repr

namespace Payload

def summary : Payload → String
  | empty => "Empty"
  | octets data => "Bytes(" ++ toString data.length ++ " bytes)"
  | stream _ => "Stream"
  | precomputed hash => "Precomputed(" ++ Text.quoted hash ++ ")"
  | unsigned => "Unsigned"

def unsignedMarker : String := "UNSIGNED-PAYLOAD"

def streamError (message : String) (fault : StreamFault) : Error :=
  (Error.new .unexpected message).withSource fault.message

/-- The digest of a stream from where it stands.  It is put back on every way out; a failed read
counts for more than a failed way back. -/
def hashStream (s : ByteStream) : Except Error String × ByteStream :=
  match s.tell with
  | .error fault =>
    (.error (streamError "unable to read stream position before hashing payload" fault), s)
  | .ok start =>
    let hashed := s.hash
    let back := hashed.2.rewind start
    match hashed.1, back.1 with
    | .error fault, _ => (.error (streamError "unable to read payload stream" fault), back.2)
    | .ok _, .error fault =>
      (.error (streamError "unable to reset stream after calculating AWS4 signature" fault), back.2)
    | .ok hash, .ok () => (.ok hash, back.2)

end Payload

/-- Finds the text that stands for the payload; it may change header fields on the way. -/
structure HashRule where
  hash : Draft → Payload → Except Error String × Draft × Payload

namespace HashRule

def sha256 : HashRule where
  hash := fun draft payload =>
    match payload with
    | .empty => (.ok (hexSha256 []), draft, .empty)
    | .octets data => (.ok (hexSha256 data), draft, .octets data)
    | .stream s => ((Payload.hashStream s).1, draft, .stream (Payload.hashStream s).2)
    | .precomputed hash => (.ok hash, draft, .precomputed hash)
    | .unsigned => (.ok Payload.unsignedMarker, draft, .unsigned)

/-- The marker of a payload that is not signed, whatever the payload. -/
def unsigned : HashRule where
  hash := fun draft payload => (.ok Payload.unsignedMarker, draft, payload)

end HashRule

end RequestSigning
