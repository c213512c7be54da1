import RequestSigning.Hash.Sha256
import RequestSigning.Encoding.Hex

/-!
# Keyed digests

HMAC over SHA-256, and both digests as lowercase hexadecimal text.
-/

namespace RequestSigning

def hexSha256 (message : Bytes) : String := Hex.encode (Sha256.digest message)

namespace Hmac

/-- A key longer than a block is replaced by its digest; a shorter one is filled with zeros. -/
def blockKey (key : Bytes) : Bytes :=
  let short := if 64 < key.length then Sha256.digest key else key
  short ++ List.replicate (64 - short.length) 0

/-- The keyed digest: the message is digested under the inner pad, the result under the outer. -/
def digest (key message : Bytes) : Bytes :=
  let block := blockKey key
  Sha256.digest (block.map (· ^^^ 0x5C) ++ Sha256.digest (block.map (· ^^^ 0x36) ++ message))

def hex (key message : Bytes) : String := Hex.encode (digest key message)

end Hmac

end RequestSigning
