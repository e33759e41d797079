import HttpStub.Text.Composition
import HttpStub.Url.Domain.Direction
import HttpStub.Url.Domain.Joiner
import HttpStub.Url.Domain.Table
import HttpStub.Url.Punycode

/-!
# Domain names

A domain name is brought to the form that is looked up. Its characters are replaced by plain ones in
lower case, the text is composed, and each of its labels is written in ASCII: one with characters
beyond it is encoded. A label that is encoded already is kept, but looked into, since the same rules
hold for the text it stands for.
-/

namespace HttpStub.Url

namespace Domain

/-- The text that replaces a character, if it may occur. The tables are `ignored`, `forbidden`,
`shifts` and `blocks`. -/
def fold? (c : Char) : Option (List Char) :=
  if c.toNat < 0x80 then some [c.toLower]
  else if ignored.contains c then some []
  else if forbidden.contains c then none
  else
    -- Capitals are replaced in rows, other characters one by one, and the rest stay.
    match shifts.findSome? (·.replace? c) with
    | some d => some [d]
    | none => some ((blocks.findSome? (·.replace? c)).getD [c])

/-- The plain form of a text, if all its characters may occur: each by `fold?`, and the whole by
`compose`. -/
def plain? (text : List Char) : Option (List Char) :=
  (text.mapM fold?).map fun parts => Text.Composition.compose parts.flatten

/-- Characters that no name contains: controls, space, and the marks that delimit the parts of a
URL. -/
def isDenied (c : Char) : Bool :=
  c.toNat ≤ 0x20 || c.toNat = 0x7F ||
    ['%', '#', '/', ':', '<', '>', '?', '@', '[', '\\', ']', '^', '|'].contains c

/-- Whether a text is of ASCII characters. -/
def isAscii (text : List Char) : Bool :=
  text.all fun c => c.toNat < 0x80

/-- What an encoded label begins with, in front of what `Punycode.encode` writes. -/
def encodedMark : List Char := ['x', 'n', '-', '-']

/-- A part of a name between two dots, in ASCII and as the text it stands for. -/
structure Label where
  /-- The label as it is looked up. -/
  ascii : List Char
  /-- The text it stands for, as `plain?` leaves it. -/
  plain : List Char

namespace Label

/-- The most characters of a label that is to be encoded. -/
def longestPlain : Nat := 1000

/-- The most characters of an encoding. -/
def longestEncoded : Nat := 2000

/-- The label that an encoding stands for. It has to be one that needs encoding and is in plain
form, as `plain?` leaves it. -/
def ofEncoded? (encoding : List Char) : Option Label := do
  -- A hyphen at the end stands behind ASCII characters only, so nothing was encoded.
  if encoding.getLast?.getD '-' = '-' ∨ longestEncoded < encoding.length then none
  else
    let plain ← Punycode.decode? encoding
    if plain? plain = some plain ∧ ¬ encodedMark.isPrefixOf plain ∧ plain.length ≤ longestPlain then
      some ⟨encodedMark ++ encoding, plain⟩
    else none

/-- The label that a text in plain form spells. One that begins with `encodedMark` is looked into by
`ofEncoded?`. -/
def ofPlain? (text : List Char) : Option Label :=
  if text.any isDenied then none
  else
    match encodedMark.isPrefixOf? text with
    | some encoding => ofEncoded? encoding
    | none =>
      if isAscii text then some ⟨text, text⟩
      else if text.length ≤ longestPlain then some ⟨encodedMark ++ Punycode.encode text, text⟩
      else none

/-- Whether a label may stand in a name: it does not begin with a mark, and its joiners make a
difference, as `joinersFit` has it. -/
def isAllowed (label : Label) : Bool :=
  !label.plain.head?.any Text.Mark.isMark && joinersFit [] label.plain

end Label

/-- The form of a name that is looked up, if it may be one: its labels by `Label.ofPlain?`, all of
them `Label.isAllowed`. -/
def toAscii? (name : List Char) : Option (List Char) := do
  let plain ← plain? name
  let labels ← (plain.splitOnP (· = '.')).mapM Label.ofPlain?
  let isBackward := labels.any fun label => label.plain.any Direction.isBackward
  if !labels.all Label.isAllowed then none
  -- One label written from right to left asks for the rule of all.
  else if isBackward && !labels.all fun label => Direction.isKept label.plain then none
  else some (['.'].intercalate (labels.map Label.ascii))

end Domain

end HttpStub.Url
