import RequestSigning.Http.Authority
import RequestSigning.Text.Utf8

/-!
# Uris

A uri is a path, an authority, or a scheme with both.  `Uri.parse?` reads the three forms,
`Uri.text` writes them.
-/

namespace RequestSigning.Http

/-- Letters, digits, `+`, `-`, `.` and `~`. -/
def isSchemeByte (b : UInt8) : Bool :=
  Ascii.isAlphanumeric b || b == 0x2B || b == 0x2D || b == 0x2E || b == 0x7E

/-- Whether the octets name a scheme other than the two with a default port. -/
def isOtherScheme (bs : Bytes) : Bool :=
  bs.all isSchemeByte && bs.length ≤ 64 && bs != Utf8.encode "http" &&
    bs != Utf8.encode "https"

inductive Scheme
  | http
  | https
  | other (octets : Bytes) (isOther : isOtherScheme octets = true)
  deriving DecidableEq

namespace Scheme

instance : Inhabited Scheme := ⟨http⟩

def octets : Scheme → Bytes
  | http => Utf8.encode "http"
  | https => Utf8.encode "https"
  | other bs _ => bs

def text (s : Scheme) : String := Ascii.text s.octets

/-- The port that is meant where none is given. -/
def defaultPort? : Scheme → Option Nat
  | http => some 80
  | https => some 443
  | other _ _ => none

/-- A scheme named on its own: the two common ones only in lowercase. -/
def parse? (bs : Bytes) : Except Fault Scheme :=
  if bs = http.octets then .ok http
  else if bs = https.octets then .ok https
  else if 64 < bs.length then .error .schemeTooLong
  else if h : isOtherScheme bs = true then .ok (other bs h)
  else .error .scheme

/-- The octets behind `name://`, whatever the case of the name. -/
def stripStandard? (name : Bytes) (bs : Bytes) : Option Bytes :=
  let start := name ++ [0x3A, 0x2F, 0x2F]
  if (bs.take start.length).map Ascii.lower = start then some (bs.drop start.length) else none

/-- The scheme at the start of a uri, if there is one, and what follows its `://`. -/
def detect? (bs : Bytes) : Except Fault (Option (Scheme × Bytes)) :=
  match stripStandard? http.octets bs, stripStandard? https.octets bs with
  | some rest, _ => .ok (some (http, rest))
  | none, some rest => .ok (some (https, rest))
  | none, none =>
    let name := bs.takeWhile isSchemeByte
    let rest := bs.drop name.length
    if 3 < bs.length ∧ rest.take 3 = [0x3A, 0x2F, 0x2F] then
      if 64 < name.length then .error .schemeTooLong
      else if h : isOtherScheme name = true then .ok (some (other name h, rest.drop 3))
      else .ok none
    else .ok none

end Scheme

/-- Texts of uris longer than this are refused. -/
def maxUriLength : Nat := 65534

/-- The characters of a path: no blank, no delimiter of a later part, nothing below `!`. -/
def isPathChar (c : Char) : Bool :=
  let n := c.toNat
  n == 0x21 || n == 0x22 || (0x24 ≤ n && n ≤ 0x3B) || n == 0x3D || (0x40 ≤ n && n ≤ 0x5F) ||
    (0x61 ≤ n && n ≤ 0x7E) || 0x80 ≤ n

def isQueryChar (c : Char) : Bool :=
  let n := c.toNat
  n == 0x21 || (0x24 ≤ n && n ≤ 0x3B) || n == 0x3D || (0x3F ≤ n && n ≤ 0x7E) || 0x80 ≤ n

/-- Whether these are a path and a query: `*`, or a path from the root. -/
def isTarget (path : String) (query : Option String) : Bool :=
  (path == "*" && query.isNone) ||
    (path.toList.head? == some '/' && path.toList.all isPathChar &&
      (query.getD "").toList.all isQueryChar)

structure Target where
  path : String
  query : Option String
  isTarget : isTarget path query = true
  deriving DecidableEq

namespace Target

def root : Target := ⟨"/", none, by decide⟩

/-- The target that stands for the server as a whole. -/
def star : Target := ⟨"*", none, by decide⟩

instance : Inhabited Target := ⟨root⟩

def ofText? (path : String) (query : Option String) : Except Fault Target :=
  if h : Http.isTarget path query = true then .ok ⟨path, query, h⟩ else .error .uriChar

/-- The octets before the first `#`, cut at the first `?`; no path at all means the root. -/
def ofBytes? (bs : Bytes) : Except Fault Target :=
  let shown := bs.takeWhile (· ≠ 0x23)
  let parts := Bytes.cut 0x3F shown
  match Utf8.decode? parts.1, parts.2.map Utf8.decode? with
  | some path, none => ofText? (if path = "" then "/" else path) none
  | some path, some (some query) => ofText? (if path = "" then "/" else path) (some query)
  | _, _ => .error .uriChar

/-- Reads a path with its query; a fragment is dropped. -/
def parse? (bs : Bytes) : Except Fault Target :=
  if bs = [] then .error .uriEmpty
  else if maxUriLength < bs.length then .error .uriTooLong
  else if bs = [0x2A] then .ok star
  else if [0x2F, 0x3F, 0x23].contains (bs.headD 0) then ofBytes? bs
  else .error .pathStart

def text (t : Target) : String := t.path ++ (t.query.elim "" fun q => "?" ++ q)

end Target

inductive Uri
  | empty
  | relative (target : Target)
  | remote (authority : Authority)
  | absolute (scheme : Scheme) (authority : Authority) (target : Target)
  deriving DecidableEq

namespace Uri

/-- The uri of the root, which also stands in for one that was taken away. -/
def root : Uri := .relative .root

instance : Inhabited Uri := ⟨root⟩

def scheme? : Uri → Option Scheme
  | absolute s _ _ => some s
  | _ => none

def authority? : Uri → Option Authority
  | remote a => some a
  | absolute _ a _ => some a
  | _ => none

def target? : Uri → Option Target
  | relative t => some t
  | absolute _ _ t => some t
  | _ => none

/-- The uri of these parts: a scheme wants both others, and both others want a scheme. -/
def ofParts? : Option Scheme → Option Authority → Option Target → Except Fault Uri
  | some s, some a, some t => .ok (absolute s a t)
  | some _, none, _ => .error .authorityMissing
  | some _, some _, none => .error .pathMissing
  | none, some _, some _ => .error .schemeMissing
  | none, some a, none => .ok (remote a)
  | none, none, some t => .ok (relative t)
  | none, none, none => .ok empty

/-- A uri behind its scheme: an authority, then a path unless nothing is left. -/
def parseRemote? (scheme : Scheme) (bs : Bytes) : Except Fault Uri :=
  if bs = [] then .error .uriEmpty
  else
    match authorityFault? (Authority.span bs).1 with
    | some f => .error f
    | none =>
      if (Authority.span bs).1 = [] then .error .uriFormat
      else do
        let authority ← Authority.ofBytes? (Authority.span bs).1
        let rest := (Authority.span bs).2
        let target ← if rest = [] then .ok Target.root else Target.parse? rest
        return absolute scheme authority target

/-- Reads a uri: a path from the root, `*`, an authority alone, or a scheme with the rest. -/
def parse? (bs : Bytes) : Except Fault Uri :=
  if maxUriLength < bs.length then .error .uriTooLong
  else if bs = [] then .error .uriEmpty
  else if bs = [0x2A] then .ok (relative .star)
  else if bs.head? = some 0x2F then relative <$> Target.parse? bs
  else if bs.length = 1 then remote <$> Authority.parse? bs
  else do
    match ← Scheme.detect? bs with
    | some (scheme, rest) => parseRemote? scheme rest
    | none =>
      match authorityFault? (Authority.span bs).1 with
      | some f => .error f
      | none =>
        if (Authority.span bs).2 = [] then remote <$> Authority.ofBytes? bs
        else .error .uriFormat

def text : Uri → String
  | empty => ""
  | relative t => t.text
  | remote a => a.text
  | absolute s a t => s.text ++ "://" ++ a.text ++ t.text

end Uri

end RequestSigning.Http
