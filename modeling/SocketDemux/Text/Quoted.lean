import SocketDemux.Text.Printable
/-!
# SocketDemux.Text.Quoted

**Quoted text**, as it appears inside the diagnostic text of an error.

A quoted text stands between double quotes. A quote or a backslash inside it is
preceded by a backslash; line feed, carriage return, tab and NUL are written
`\n`, `\r`, `\t` and `\0`; every other character without a shape of its own is written
as `\u` followed by its code in hexadecimal between braces. All else stands for itself.
-/

namespace SocketDemux.Text

/-- How one character is written inside a quoted text. -/
def escape (c : Char) : List Char :=
  if c = '"' then ['\\', '"']
  else if c = '\\' then ['\\', '\\']
  else if c = '\n' then ['\\', 'n']
  else if c = '\r' then ['\\', 'r']
  else if c = '\t' then ['\\', 't']
  else if c.toNat = 0 then ['\\', '0']
  else if isPrintable c then [c]
  else ['\\', 'u', '\x7b'] ++ Nat.toDigits 16 c.toNat ++ ['\x7d']

/-- `text` between double quotes, with escapes. -/
def quote (text : String) : String :=
  String.ofList ('"' :: text.toList.flatMap escape ++ ['"'])

end SocketDemux.Text
