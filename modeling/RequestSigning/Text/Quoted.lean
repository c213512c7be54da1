import RequestSigning.Text.Invisible
import RequestSigning.Text.Unassigned

/-!
# Quoted text

A text between quotation marks, as it is shown in messages: quotation mark, backslash, tab, line
ends and NUL have short escapes, and every other character that is invisible or not assigned is
spelled by its number.
-/

namespace RequestSigning.Text

def quoteChar (c : Char) : List Char :=
  if c = '"' then ['\\', '"']
  else if c = '\\' then ['\\', '\\']
  else if c = '\t' then ['\\', 't']
  else if c = '\r' then ['\\', 'r']
  else if c = '\n' then ['\\', 'n']
  else if c = '\x00' then ['\\', '0']
  else if isInvisible c || isUnassigned c then
    ['\\', 'u', '\x7b'] ++ Nat.toDigits 16 c.toNat ++ ['\x7d']
  else [c]

def quoted (s : String) : String :=
  String.ofList ('"' :: s.toList.flatMap quoteChar ++ ['"'])

end RequestSigning.Text
