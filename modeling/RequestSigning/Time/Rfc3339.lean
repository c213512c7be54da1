import RequestSigning.Error
import RequestSigning.Text.Quoted
import RequestSigning.Time.Civil
import RequestSigning.Time.Instant

/-!
# Reading RFC 3339 times

`YYYY-MM-DD`, a separator, `HH:MM:SS`, an optional fraction, and `Z` or an offset of hours and
minutes.  Every reader here takes characters and gives a value with the rest.
-/

namespace RequestSigning.Rfc3339

def digit? (c : Char) : Option Nat :=
  if '0' ≤ c ∧ c ≤ '9' then some (c.toNat - 48) else none

/-- Exactly `n` digits, continuing from `acc`. -/
def digits? : Nat → Nat → List Char → Option (Nat × List Char)
  | 0, acc, cs => some (acc, cs)
  | _ + 1, _, [] => none
  | n + 1, acc, c :: cs => (digit? c).bind fun d => digits? n (acc * 10 + d) cs

def oneOf? (allowed : List Char) : List Char → Option (List Char)
  | [] => none
  | c :: cs => if c ∈ allowed then some cs else none

/-- The nanoseconds of a fraction: digits after the ninth count for nothing. -/
def fraction (digits : List Char) : Nat :=
  ((digits.take 9 ++ List.replicate (9 - digits.length) '0').foldl
    (fun n c => n * 10 + (c.toNat - 48)) 0)

/-- An optional point with at least one digit. -/
def fraction? : List Char → Option (Nat × List Char)
  | '.' :: cs =>
    let digits := cs.takeWhile fun c => (digit? c).isSome
    if digits = [] then none else some (fraction digits, cs.drop digits.length)
  | cs => some (0, cs)

def offset? : List Char → Option (Int × List Char)
  | [] => none
  | c :: cs =>
    if c = 'Z' ∨ c = 'z' then some (0, cs)
    else if c = '+' ∨ c = '-' ∨ c = '\u2212' then do
      let (hours, cs) ← digits? 2 0 cs
      let cs ← oneOf? [':'] cs
      let (minutes, cs) ← digits? 2 0 cs
      if hours ≤ 23 ∧ minutes ≤ 59 then
        let total : Int := hours * 60 + minutes
        some (if c = '+' then total else -total, cs)
      else none
    else none

/-- A date with four digits for the year. -/
def date? (cs : List Char) : Option (Civil.Date × List Char) := do
  let (year, cs) ← digits? 4 0 cs
  let cs ← oneOf? ['-'] cs
  let (month, cs) ← digits? 2 0 cs
  let cs ← oneOf? ['-'] cs
  let (day, cs) ← digits? 2 0 cs
  let date : Civil.Date := ⟨year, month, day⟩
  if Civil.isDate date then some (date, cs) else none

/-- A time of day in seconds, and the nanoseconds; second 60 is a leap second. -/
def clock? (cs : List Char) : Option (Nat × Nat × List Char) := do
  let (hour, cs) ← digits? 2 0 cs
  let cs ← oneOf? [':'] cs
  let (minute, cs) ← digits? 2 0 cs
  let cs ← oneOf? [':'] cs
  let (second, cs) ← digits? 2 0 cs
  let (nanos, cs) ← fraction? cs
  if hour ≤ 23 ∧ minute ≤ 59 ∧ second ≤ 60 then
    if second = 60 then some (hour * 3600 + minute * 60 + 59, nanosPerSecond + nanos, cs)
    else some (hour * 3600 + minute * 60 + second, nanos, cs)
  else none

def parse? (text : String) : Option Instant := do
  let (date, cs) ← date? text.toList
  let cs ← oneOf? ['T', 't', ' '] cs
  let (seconds, nanos, cs) ← clock? cs
  let (offset, cs) ← offset? cs
  if cs = [] then
    Instant.ofFields? (Civil.toDays date * Instant.secondsPerDay + seconds - offset * 60) nanos
  else none

def unreadable (text : String) : Error :=
  (Error.new .unexpected ("failed to parse time " ++ Text.quoted text ++ " as rfc3339")).withSource
    "input is no date and time"

def parse (text : String) : Except Error Instant :=
  match parse? text with
  | some t => .ok t
  | none => .error (unreadable text)

end RequestSigning.Rfc3339
