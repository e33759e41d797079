import HttpStub.Json.Number

/-!
# Places in a text

A place is a line and a byte column. A message names its place at the end, and `Position.takeOff?`
finds it there again.
-/

namespace HttpStub.Json

/-- A line, counted from one, and the number of its bytes up to the place. -/
structure Position where
  line : Nat
  column : Nat
deriving DecidableEq

/-- The bytes that a text takes in UTF-8. -/
def byteLength : List Char → Nat
  | [] => 0
  | c :: cs => c.utf8Size + byteLength cs

namespace Position

/-- Moves on by `bytes` bytes of the text, or to its end. -/
def advance (p : Position) : Nat → List Char → Position
  | _, [] => p
  | bytes, c :: rest =>
    if bytes = 0 then p
    else if c = '\n' then advance ⟨p.line + 1, 0⟩ (bytes - 1) rest
    -- The place lies within a character, which takes several bytes.
    else if bytes < c.utf8Size then ⟨p.line, p.column + bytes⟩
    else advance ⟨p.line, p.column + c.utf8Size⟩ (bytes - c.utf8Size) rest

/-- What stands before the line. -/
def lineMark : List Char := " at line ".toList

/-- What stands before the column. -/
def columnMark : List Char := " column ".toList

/-- The place as a message names it, line and column behind `lineMark` and `columnMark`. -/
def chars (p : Position) : List Char :=
  lineMark ++ natChars p.line ++ (columnMark ++ natChars p.column)

/-- Takes a mark and the number behind it off the end of a text, which is given backwards, as is
what is left. The number is of 64 bits. -/
def takeField? (mark reversed : List Char) : Option (Nat × List Char) := do
  let digits := reversed.takeWhile Char.isDigit
  let rest ← mark.reverse.isPrefixOf? (reversed.dropWhile Char.isDigit)
  let n := Nat.ofDigitChars 10 digits.reverse 0
  if digits ≠ [] ∧ n < UInt64.size then some (n, rest) else none

/-- Takes a place off the end of a message, as `chars` puts it there: what is left, and the place.
-/
def takeOff? (message : List Char) : Option (List Char × Position) := do
  let (column, rest) ← takeField? columnMark message.reverse
  let (line, rest) ← takeField? lineMark rest
  return (rest.reverse, ⟨line, column⟩)

end Position

end HttpStub.Json
