import FilterQuery.Text.Printable

/-!
# Quoted text

Messages show a text between double quotes. A quote and a backslash are escaped, the common control
characters have their short forms, and a character that cannot be seen on its own (it is not
printable, or it combines with the one before it) is shown by its number in hexadecimal.
-/

namespace FilterQuery.Text

/-- How `c` is shown inside double quotes. -/
def quotedChar (c : Char) : List Char :=
  if c = '\x00' then ['\\', '0']
  else if c = '\t' then ['\\', 't']
  else if c = '\n' then ['\\', 'n']
  else if c = '\r' then ['\\', 'r']
  else if c = '"' then ['\\', '"']
  else if c = '\\' then ['\\', '\\']
  else if extending.contains c || !printable.contains c then
    ['\\', 'u', '\x7b'] ++ Nat.toDigits 16 c.toNat ++ ['\x7d']
  else [c]

/-- The text `s` between double quotes. -/
def quoted (s : String) : String :=
  String.ofList ('"' :: s.toList.flatMap quotedChar ++ ['"'])

end FilterQuery.Text
