import HttpStub.Text.Standalone

/-!
# Quoted text in messages

A message quotes a string so that it stays on one line and every character can be told from its
neighbours: a few characters have short escapes, and what does not stand alone is given by its code
point in hexadecimal.
-/

namespace HttpStub.Text

/-- One character of a quoted text; whether it needs an escape is for `standsAlone` to say. -/
def quotedChar (c : Char) : List Char :=
  if c = '"' then ['\\', '"']
  else if c = '\\' then ['\\', '\\']
  else if c = '\x00' then ['\\', '0']
  else if c = '\t' then ['\\', 't']
  else if c = '\n' then ['\\', 'n']
  else if c = '\r' then ['\\', 'r']
  -- The short escapes come first, for the quote and the backslash stand alone as well.
  else if standsAlone c then [c]
  else ['\\', 'u', '\x7b'] ++ Nat.toDigits 16 c.toNat ++ ['\x7d']

/-- The text in quotes, each character by `quotedChar`. -/
def quoted (s : String) : String :=
  String.ofList ('"' :: s.toList.flatMap quotedChar ++ ['"'])

end HttpStub.Text
