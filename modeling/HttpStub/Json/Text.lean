import HttpStub.Json.Basic

/-!
# The text of a document

Documents are written without spaces, members and items in their order. Inside strings a quote, a
backslash and the controls below U+0020 are escaped and nothing else is.
-/

namespace HttpStub.Json

/-- A hexadecimal digit in lower case. -/
def hexDigit (n : Nat) : Char :=
  if n < 10 then Char.ofNat ('0'.toNat + n) else Char.ofNat ('a'.toNat + (n - 10))

/-- How one character is written inside a string: as it is, by letter or by code. -/
def escapeChar (c : Char) : List Char :=
  if c = '"' then ['\\', '"']
  else if c = '\\' then ['\\', '\\']
  else if c = '\x08' then ['\\', 'b']
  else if c = '\t' then ['\\', 't']
  else if c = '\n' then ['\\', 'n']
  else if c = '\x0c' then ['\\', 'f']
  else if c = '\r' then ['\\', 'r']
  -- The other controls have no letter of their own.
  else if c.toNat < 0x20 then
    ['\\', 'u', '0', '0', hexDigit (c.toNat / 16), hexDigit (c.toNat % 16)]
  else [c]

/-- A string in quotes, each character by `escapeChar`. -/
def quote (s : String) : List Char :=
  '"' :: s.toList.flatMap escapeChar ++ ['"']

mutual

/-- The characters of a document, without any space between its tokens. -/
def chars : Json → List Char
  | .null => ['n', 'u', 'l', 'l']
  | .bool true => ['t', 'r', 'u', 'e']
  | .bool false => ['f', 'a', 'l', 's', 'e']
  | .number n => n.chars
  | .string s => quote s
  | .array items => '[' :: itemChars items
  | .object members => '\x7b' :: memberChars members

/-- The items of an array, commas between them, and the closing bracket. -/
def itemChars : List Json → List Char
  | [] => [']']
  | [j] => chars j ++ [']']
  | j :: k :: js => chars j ++ ',' :: itemChars (k :: js)

/-- The members of an object, commas between them, and the closing brace. -/
def memberChars : List (String × Json) → List Char
  | [] => ['\x7d']
  | [(k, j)] => quote k ++ ':' :: chars j ++ ['\x7d']
  | (k, j) :: m :: ms => quote k ++ ':' :: chars j ++ ',' :: memberChars (m :: ms)

end

/-- The text of a document, the `chars` of which are written one behind the other. -/
def text (j : Json) : String :=
  String.ofList j.chars

/-- The text of the value a document describes, in its `canonical` form: members by key, the last of
repeated ones. -/
def canonicalText (j : Json) : String :=
  j.canonical.text

end HttpStub.Json
