import PageWatch.Text.Invisible

/-!
# Quoted text

Texts inside messages stand between double quotes. Quotes, backslashes and line
ends are written with a backslash, and characters without a visible form by
their number.
-/

set_option autoImplicit false

namespace PageWatch.Text

def escaped (c : Char) : List Char :=
  if c = '\x00' then ['\\', '0']
  else if c = '\t' then ['\\', 't']
  else if c = '\r' then ['\\', 'r']
  else if c = '\n' then ['\\', 'n']
  else if c = '"' ∨ c = '\\' then ['\\', c]
  else if invisible.contains c.toNat then "\\u\x7b".toList ++ hex c.toNat ++ ['\x7d']
  else [c]

def quoted (s : String) : String :=
  "\"" ++ String.ofList (s.toList.flatMap escaped) ++ "\""

def quotedList (xs : List String) : String := "[" ++ ", ".intercalate (xs.map quoted) ++ "]"

end PageWatch.Text
