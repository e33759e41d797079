/-!
# Tables of code points

Properties of characters are given as text, for the characters of Unicode 17. A table is words with
blanks between them, and a word is hexadecimal numbers with hyphens between them. In the table of a
set each word is one code point, or the first and the last of a range.
-/

namespace HttpStub.Text

namespace Codes

/-- The value of a hexadecimal digit, with letters in lower case as the tables have them. -/
def digitValue (c : Char) : Nat :=
  if c.isDigit then c.toNat - '0'.toNat else c.toNat - 'a'.toNat + 10

/-- The number of a row of hexadecimal digits. -/
def number (digits : List Char) : Nat :=
  digits.foldl (fun n c => n * 16 + digitValue c) 0

/-- The words of a text; the line breaks of a table are blanks like others. -/
def words (text : List Char) : List (List Char) :=
  (text.splitOnP Char.isWhitespace).filter fun word => !word.isEmpty

/-- The numbers of a word, each read by `number`. -/
def numbers (word : List Char) : List Nat :=
  (word.splitOnP (· = '-')).map number

/-- The rows of a text, which end in semicolons, each as its `words`. -/
def rows (text : String) : List (List (List Char)) :=
  (text.toList.splitOnP (· = ';')).map words

/-- Code points from `first` to `last`. -/
structure Range where
  first : Nat
  last : Nat
deriving DecidableEq

/-- Whether the code point lies in the range, its ends included. -/
def Range.contains (r : Range) (code : Nat) : Bool :=
  r.first ≤ code && code ≤ r.last

/-- The `Range` that a word gives; a word of more than two `numbers` gives none. -/
def Range.ofWord? (word : List Char) : Option Range :=
  match numbers word with
  -- A single code point is a range of its own.
  | [code] => some ⟨code, code⟩
  | [first, last] => some ⟨first, last⟩
  | _ => none

end Codes

/-- A set of code points. -/
structure Codes where
  ranges : List Codes.Range

namespace Codes

/-- The set that some words give, each by `Range.ofWord?`. -/
def ofWords (words : List (List Char)) : Codes :=
  ⟨words.filterMap Range.ofWord?⟩

/-- The set that a text gives, as the tables `Mark.nonspacing` and `dependent` do. -/
def ofText (text : String) : Codes :=
  ofWords (words text.toList)

/-- Whether the character is in the set, that is in one of its `ranges`. -/
def contains (s : Codes) (c : Char) : Bool :=
  s.ranges.any fun r => r.contains c.toNat

end Codes

end HttpStub.Text
