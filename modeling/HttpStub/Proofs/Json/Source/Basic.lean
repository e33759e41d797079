import HttpStub.Json.Read.NumberLiteral
import HttpStub.Json.Read.StringLiteral

/-!
# Sources

A source is a text of the JSON grammar with its structure: which spaces stand between the tokens and
how every number and every character of a string is spelled. Two sources may describe one document,
and a source may be longer than any reader of documents allows: its nesting and the size of its
numbers have no limit, and a string may hold half of a surrogate pair, which no text can hold.
-/

namespace HttpStub.Json

/-- What may stand between two tokens, as `isSpace` knows it. -/
structure Spaces where
  /-- The spaces, line breaks and tabs. -/
  chars : List Char
  /-- Nothing else stands there. -/
  areSpaces : ∀ c ∈ chars, isSpace c = true

/-- No space at all. -/
def Spaces.empty : Spaces := ⟨[], by simp⟩

/-- No characters are in `Spaces.empty`. -/
@[simp] theorem Spaces.chars_empty : Spaces.empty.chars = [] := rfl

/-! ## Tokens -/

/-- What stands for a character of a string: the character itself, an escape by letter as
`letterEscape?` knows it, or an escape by code unit, whose four digits `hexValue4?` reads. -/
inductive Glyph where
  /-- A character that may stand for itself. -/
  | plain (c : Char) (isPlain : c ≠ '"' ∧ c ≠ '\\' ∧ 0x20 ≤ c.toNat)
  /-- A backslash and a letter. -/
  | letter (c d : Char) (stands : letterEscape? c = some d)
  /-- A backslash, the letter `u` and four digits. -/
  | unit (a b c d : Char) (n : Nat) (stands : hexValue4? a b c d = some n)

/-- How a `Glyph` is written. -/
def Glyph.chars : Glyph → List Char
  | .plain c _ => [c]
  | .letter c _ _ => ['\\', c]
  | .unit a b c d _ _ => ['\\', 'u', a, b, c, d]

/-- The characters that glyphs stand for. A code unit that `isLeading` has to be followed by one
that `isTrailing`, which stands nowhere else. -/
def glyphsValue? : List Glyph → Option (List Char)
  | [] => some []
  | .plain c _ :: gs => (glyphsValue? gs).map (c :: ·)
  -- An escape by letter stands for one character, whatever follows it.
  | .letter _ d _ :: gs => (glyphsValue? gs).map (d :: ·)
  | .unit _ _ _ _ n _ :: gs =>
    -- No character stands for the second half of a pair alone.
    if isTrailing n then none
    -- The first half takes the next escape with it.
    else if isLeading n then
      match gs with
      | .unit _ _ _ _ m _ :: gs =>
        if isTrailing m then (glyphsValue? gs).map (pairChar n m :: ·) else none
      | _ => none
    else (glyphsValue? gs).map (Char.ofNat n :: ·)

/-- What stands between the quotes of a string, one `Glyph` for each character or code unit. -/
structure Quoted where
  /-- What is written, character by character. -/
  glyphs : List Glyph

namespace Quoted

/-- The characters of the glyphs, up to the closing quote. -/
def chars (q : Quoted) : List Char :=
  q.glyphs.flatMap Glyph.chars ++ ['"']

/-- The string that is meant, if there is one; see `glyphsValue?`. -/
def value? (q : Quoted) : Option String :=
  (glyphsValue? q.glyphs).map String.ofList

end Quoted

/-- One decimal digit or more. -/
structure Digits where
  /-- The digits in their order. -/
  chars : List Char
  /-- There is at least one. -/
  ne_nil : chars ≠ []
  /-- Nothing else stands there. -/
  areDigits : ∀ c ∈ chars, c.isDigit = true

/-- The spelling of an exponent: a small or capital mark, and a sign that need not be there. -/
structure ExponentSource where
  /-- Whether the mark is a capital. -/
  capital : Bool
  /-- Whether the sign is a minus. -/
  sign : Option Bool
  /-- The digits, which may begin with zeros. -/
  digits : Digits

namespace ExponentSource

/-- The sign, or nothing. -/
def signChars (e : ExponentSource) : List Char :=
  match e.sign with
  | none => []
  | some true => ['-']
  | some false => ['+']

/-- How an exponent is written. -/
def chars (e : ExponentSource) : List Char :=
  (if e.capital then 'E' else 'e') :: (e.signChars ++ e.digits.chars)

end ExponentSource

/-- The spelling of a number, in all its parts. -/
structure NumberSource where
  /-- Whether a minus stands in front. -/
  negative : Bool
  /-- The digits before the point. -/
  whole : Digits
  /-- A zero in front stands alone. -/
  eq_nil_of_zero : ∀ ds, whole.chars = '0' :: ds → ds = []
  /-- The digits behind the point, if there is one. -/
  fraction : Option Digits
  /-- The exponent, if there is one. -/
  exponent : Option ExponentSource

namespace NumberSource

/-- The point and the digits of `fraction` behind it, or nothing. -/
def fractionChars (n : NumberSource) : List Char :=
  match n.fraction with
  | none => []
  | some ds => '.' :: ds.chars

/-- The characters of `exponent`, or nothing. -/
def exponentChars (n : NumberSource) : List Char :=
  match n.exponent with
  | none => []
  | some e => e.chars

/-- How a number is written. -/
def chars (n : NumberSource) : List Char :=
  -- The whole part, the fraction and the exponent follow each other without spaces.
  (if n.negative then ['-'] else []) ++ (n.whole.chars ++ (n.fractionChars ++ n.exponentChars))

/-- The parts of a number that count, as `NumberLiteral.read` gives them. -/
def literal (n : NumberSource) : NumberLiteral where
  negative := n.negative
  whole := n.whole.chars
  fraction := (n.fraction.map Digits.chars).getD []
  -- A sign that is left out is a plus.
  exponent := n.exponent.map fun e => (e.sign == some true, e.digits.chars)

end NumberSource

/-! ## Sources -/

/-- Something between spaces, as items, keys and values stand. -/
structure Padded (α : Type) where
  before : Spaces
  body : α
  after : Spaces

/-- A member of an object: a key and a value, each of them `Padded`. -/
structure MemberOf (α : Type) where
  key : Padded Quoted
  value : Padded α

/-- The string that the key of a member means, if it means one; see `Quoted.value?`. -/
def MemberOf.name? {α : Type} (m : MemberOf α) : Option String :=
  m.key.body.value?

/-- Something else between the same spaces. -/
def Padded.withBody {α : Type} (p : Padded α) (a : α) : Padded α :=
  { p with body := a }

/-- The member with another value, between the spaces of the old one. -/
def MemberOf.withValue {α : Type} (m : MemberOf α) (a : α) : MemberOf α :=
  { m with value := m.value.withBody a }

namespace MemberOf

variable {α : Type} (m : MemberOf α) (a : α)

/-- With `withValue` the key of a member stays, and so does its `name?`. -/
@[simp] theorem name?_withValue : (m.withValue a).name? = m.name? := rfl

/-- The value of a member that `withValue` makes is the one it is given. -/
@[simp] theorem body_withValue : (m.withValue a).value.body = a := rfl

end MemberOf

/-- A JSON text with its structure. The spaces `last` stand at the end of an array or object, behind
the last of its items or members if there is one. -/
inductive Source where
  | null
  | bool (b : Bool)
  | number (n : NumberSource)
  | string (q : Quoted)
  | array (items : List (Padded Source)) (last : Spaces)
  | object (members : List (MemberOf Source)) (last : Spaces)

namespace Source

/-- A member of a source. -/
abbrev Member := MemberOf Source

mutual

/-- The characters of a source. -/
def chars : Source → List Char
  | .null => ['n', 'u', 'l', 'l']
  | .bool true => ['t', 'r', 'u', 'e']
  | .bool false => ['f', 'a', 'l', 's', 'e']
  | .number n => n.chars
  | .string q => '"' :: q.chars
  | .array items last => '[' :: itemsChars items last
  | .object members last => '\x7b' :: membersChars members last

/-- The items of an array, and its end; those behind the first by `moreItemsChars`. -/
def itemsChars : List (Padded Source) → Spaces → List Char
  -- An empty array has spaces of its own, and no comma.
  | [], last => last.chars ++ [']']
  | ⟨before, s, after⟩ :: items, last =>
    before.chars ++ (chars s ++ (after.chars ++ moreItemsChars items last))

/-- The items behind another one, each with a comma in front, and the end of the array. -/
def moreItemsChars : List (Padded Source) → Spaces → List Char
  | [], last => last.chars ++ [']']
  | ⟨before, s, after⟩ :: items, last =>
    ',' :: (before.chars ++ (chars s ++ (after.chars ++ moreItemsChars items last)))

/-- The members of an object, and its end; those behind the first by `moreMembersChars`. -/
def membersChars : List (MemberOf Source) → Spaces → List Char
  | [], last => last.chars ++ ['\x7d']
  | ⟨⟨beforeKey, key, afterKey⟩, ⟨before, s, after⟩⟩ :: members, last =>
    beforeKey.chars ++ ('"' :: (key.chars ++ (afterKey.chars ++ (':' ::
      (before.chars ++ (chars s ++ (after.chars ++ moreMembersChars members last)))))))

/-- The members behind another one, each with a comma in front, and the end of the object. -/
def moreMembersChars : List (MemberOf Source) → Spaces → List Char
  | [], last => last.chars ++ ['\x7d']
  | ⟨⟨beforeKey, key, afterKey⟩, ⟨before, s, after⟩⟩ :: members, last =>
    ',' :: (beforeKey.chars ++ ('"' :: (key.chars ++ (afterKey.chars ++ (':' ::
      (before.chars ++ (chars s ++ (after.chars ++ moreMembersChars members last))))))))

end

end Source

/-- A whole text: a `Source` between spaces. -/
def Padded.text (p : Padded Source) : String :=
  String.ofList (p.before.chars ++ (p.body.chars ++ p.after.chars))

end HttpStub.Json
