import RequestSigning.Http.Method

/-!
# Header fields

A header map keeps its fields in the order they came in; names are lowercase and may repeat.
`insert` replaces every value of a name, `append` adds one.  `values` is the view that the laws of
the operations are stated in.
-/

namespace RequestSigning.Http

def isFieldName (bs : Bytes) : Bool :=
  isToken bs && bs.all fun b => !(0x41 ≤ b && b ≤ 0x5A)

structure HeaderName where
  octets : Bytes
  isName : isFieldName octets = true
  deriving DecidableEq

namespace HeaderName

/-- Names longer than this are refused. -/
def maxLength : Nat := 65535

def ofBytes? (bs : Bytes) : Except Fault HeaderName :=
  if h : isFieldName (bs.map Ascii.lower) = true ∧ bs.length ≤ maxLength then
    .ok ⟨bs.map Ascii.lower, h.1⟩
  else .error .headerName

def text (n : HeaderName) : String := Ascii.text n.octets

/-- The header field of a name that is known to be one. -/
def named (name : String) (h : isFieldName (Utf8.encode name) = true := by decide) : HeaderName :=
  ⟨Utf8.encode name, h⟩

def authorization : HeaderName := named "authorization"

def connection : HeaderName := named "connection"

def contentHash : HeaderName := named "x-amz-content-sha256"

def contentLength : HeaderName := named "content-length"

def date : HeaderName := named "x-amz-date"

def host : HeaderName := named "host"

def metadataToken : HeaderName := named "x-aws-ec2-metadata-token"

def metadataTokenTtl : HeaderName := named "x-aws-ec2-metadata-token-ttl-seconds"

def securityToken : HeaderName := named "x-amz-security-token"

def traceId : HeaderName := named "x-amzn-trace-id"

end HeaderName

/-- The octets of a field value: no control character but the tab. -/
def isFieldByte (b : UInt8) : Bool := b == 0x09 || (0x20 ≤ b && b != 0x7F)

/-- Tab and the visible part of ASCII. -/
def isVisibleByte (b : UInt8) : Bool := b == 0x09 || (0x20 ≤ b && b ≤ 0x7E)

/-- The value of a header field; a sensitive one is not to be shown. -/
structure HeaderValue where
  octets : Bytes
  sensitive : Bool
  isValue : octets.all isFieldByte = true
  deriving DecidableEq

namespace HeaderValue

def ofBytes? (bs : Bytes) (sensitive : Bool) : Except Fault HeaderValue :=
  if h : bs.all isFieldByte = true then .ok ⟨bs, sensitive, h⟩ else .error .headerValue

def ofText? (s : String) (sensitive : Bool) : Except Fault HeaderValue :=
  ofBytes? (Utf8.encode s) sensitive

/-- The value as text, if it is visible ASCII throughout. -/
def text? (v : HeaderValue) : Except Fault String :=
  if v.octets.all isVisibleByte then .ok (Ascii.text v.octets) else .error .headerText

end HeaderValue

structure HeaderField where
  name : HeaderName
  value : HeaderValue
  deriving DecidableEq

structure Headers where
  fields : List HeaderField
  deriving DecidableEq

namespace Headers

def empty : Headers := ⟨[]⟩

instance : Inhabited Headers := ⟨empty⟩

def values (h : Headers) (n : HeaderName) : List HeaderValue :=
  (h.fields.filter (·.name = n)).map (·.value)

def get? (h : Headers) (n : HeaderName) : Option HeaderValue := (h.values n).head?

/-- The first value of a name as text, if it is visible ASCII. -/
def text? (h : Headers) (n : HeaderName) : Option String :=
  (h.get? n).bind fun v => v.text?.toOption

def contains (h : Headers) (n : HeaderName) : Bool := (h.get? n).isSome

def append (h : Headers) (n : HeaderName) (v : HeaderValue) : Headers := ⟨h.fields ++ [⟨n, v⟩]⟩

/-- The only value of its name from now on. -/
def insert (h : Headers) (n : HeaderName) (v : HeaderValue) : Headers :=
  ⟨h.fields.filter (·.name ≠ n) ++ [⟨n, v⟩]⟩

def ofOctets? (fields : List (Bytes × Bytes)) : Except Fault Headers :=
  fields.foldlM (fun h field => do
    let name ← HeaderName.ofBytes? field.1
    let value ← HeaderValue.ofBytes? field.2 false
    return h.append name value) empty

@[simp] theorem values_append (h : Headers) (n m : HeaderName) (v : HeaderValue) :
    (h.append n v).values m = if n = m then h.values m ++ [v] else h.values m := by
  by_cases hn : n = m <;> simp [values, append, hn]

@[simp] theorem values_insert (h : Headers) (n m : HeaderName) (v : HeaderValue) :
    (h.insert n v).values m = if n = m then [v] else h.values m := by
  by_cases hn : n = m
  · subst hn
    simp [values, insert, List.filter_filter]
  · simp only [values, insert, List.filter_append, List.filter_filter, hn, List.filter_cons]
    simp only [decide_false, Bool.false_eq_true, if_false, List.filter_nil, List.append_nil]
    congr 1
    apply List.filter_congr
    intro f _
    by_cases hf : f.name = m
    · subst hf
      simp [Ne.symm hn]
    · simp [hf]

end Headers

end RequestSigning.Http
