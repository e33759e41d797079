/-!
# Schemes

The schemes of the web are special: their URLs have a host and a path, a backslash is as good as a
slash, and a port that is the usual one is left out.
-/

namespace HttpStub.Url

/-- Tabs and line breaks inside a URL are not seen; `seen` leaves them out. -/
def isUnseen (c : Char) : Bool :=
  c = '\t' || c = '\n' || c = '\r'

/-- The characters of a text that are seen, all but those that `isUnseen` holds of. -/
def seen (text : List Char) : List Char :=
  text.filter fun c => !isUnseen c

/-- Takes the first character that is seen off the front, with those before it. -/
def takeSeen? (text : List Char) : Option (Char × List Char) :=
  match text.dropWhile isUnseen with
  | [] => none
  | c :: rest => some (c, rest)

/-- A scheme, by its name in lower case. -/
structure Scheme where
  /-- The name, as `take?` leaves it. -/
  name : String
deriving DecidableEq

namespace Scheme

/-- The special schemes, with their usual ports. -/
def special : List (String × Option UInt16) :=
  [("http", some 80), ("https", some 443), ("ws", some 80), ("wss", some 443), ("ftp", some 21),
   ("file", none)]

/-- Whether the scheme is one of `special`. -/
def isSpecial (s : Scheme) : Bool :=
  special.any fun entry => entry.1 = s.name

/-- Whether the scheme is that of local files. -/
def isFile (s : Scheme) : Bool :=
  s.name = "file"

/-- The port that is used if none is given, as `special` has it; it is left out of the text. -/
def usualPort? (s : Scheme) : Option UInt16 :=
  (special.find? fun entry => entry.1 = s.name).bind Prod.snd

/-- The characters that part the segments of a path: the slash, and for a `special` scheme the
backslash. -/
def isSeparator (s : Scheme) (c : Char) : Bool :=
  c = '/' || (c = '\\' && s.isSpecial)

/-- Letters, and behind the first of them also digits and three marks, make a `Scheme.name`. -/
def isNameChar (c : Char) : Bool :=
  c.isAlphanum || ['+', '-', '.'].contains c

/-- Takes the scheme and its colon off the front, what is not `seen` inside it left out. -/
def take? (text : List Char) : Option (Scheme × List Char) :=
  let (front, behind) := text.span (· ≠ ':')
  let name := seen front
  match name.head?, behind with
  | some first, _ :: rest =>
    if first.isAlpha ∧ name.all isNameChar then
      some (⟨String.ofList (name.map Char.toLower)⟩, rest)
    else none
  | _, _ => none

end Scheme

end HttpStub.Url
