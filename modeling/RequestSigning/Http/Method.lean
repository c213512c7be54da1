import RequestSigning.Http.Fault
import RequestSigning.Text.Ascii
import RequestSigning.Text.Utf8

/-!
# Methods

A request method is a token: the name of a method is kept in the case it was given in.
-/

namespace RequestSigning.Http

/-- The octets of a token: letters, digits and fifteen marks. -/
def isTokenByte (b : UInt8) : Bool :=
  Ascii.isAlphanumeric b ||
    [0x21, 0x23, 0x24, 0x25, 0x26, 0x27, 0x2A, 0x2B, 0x2D, 0x2E,
      0x5E, 0x5F, 0x60, 0x7C, 0x7E].contains b

def isToken (bs : Bytes) : Bool := !bs.isEmpty && bs.all isTokenByte

structure Method where
  octets : Bytes
  isToken : isToken octets = true
  deriving DecidableEq

namespace Method

def ofBytes? (bs : Bytes) : Except Fault Method :=
  if h : Http.isToken bs = true then .ok ⟨bs, h⟩ else .error .method

def text (m : Method) : String := Ascii.text m.octets

/-- The method of a name that is known to be a token. -/
def named (name : String) (h : Http.isToken (Utf8.encode name) = true := by decide) : Method :=
  ⟨Utf8.encode name, h⟩

def get : Method := named "GET"

def put : Method := named "PUT"

instance : Inhabited Method := ⟨get⟩

end Method

end RequestSigning.Http
