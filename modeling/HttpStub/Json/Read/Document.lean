import HttpStub.Json.Basic
import HttpStub.Json.Read.Bracketed
import HttpStub.Json.Read.NumberLiteral
import HttpStub.Json.Read.StringLiteral

/-!
# Reading documents

`document depth` reads a document with at most `depth` brackets open at a time, and `parse` a whole
text with the standard limit. `skip` passes over a document without limit on its depth and without a
look at the size of its numbers.
-/

namespace HttpStub.Json

/-- Reads a literal name or number, a string, or what `nested` makes of an opening bracket. -/
def valueWith (nested : Reader Json) : Reader Json := fun cs =>
  match skipSpace cs with
  | [] => malformedBefore .endInValue []
  | c :: rest =>
    if c = 'n' then do return (.null, ← literalTail ['u', 'l', 'l'] rest)
    else if c = 't' then do return (.bool true, ← literalTail ['r', 'u', 'e'] rest)
    else if c = 'f' then do return (.bool false, ← literalTail ['a', 'l', 's', 'e'] rest)
    else if c = '-' || c.isDigit then do
      let (n, unread) ← numberLiteral (c :: rest)
      return (.number n, unread)
    else if c = '"' then do
      let (s, unread) ← stringLiteral rest
      return (.string s, unread)
    else if c = '[' || c = '\x7b' then nested (c :: rest)
    else malformedAt .expectedValue (c :: rest)

/-- Reads one member of an object, its value by `value`, and puts it in front of those gathered
before. -/
def memberWith (value : Reader Json) (gathered : List (String × Json)) :
    Reader (List (String × Json)) := fun cs => do
  let (key, unread) ← stringLiteral cs
  let (j, unread) ← value (← colon unread)
  return ((key, j) :: gathered, unread)

/-- Reads an array or object from its opening bracket on, by `items` or `members`. -/
def nestedWith (value : Reader Json) : Reader Json
  | [] => malformedBefore .endInValue []
  | c :: rest =>
    if c = '[' then do
      let (js, unread) ← items true value rest
      return (.array js, unread)
    else do
      let (gathered, unread) ← members true (memberWith value) [] rest
      -- The members have been gathered in front of one another.
      return (.object gathered.reverse, unread)

/-- Reads a document with at most `depth` open brackets. -/
def document : Nat → Reader Json
  -- With no bracket left, an opening one is the fault, whatever follows it.
  | 0 => valueWith (malformedAt .tooDeep)
  | depth + 1 => valueWith (nestedWith (document depth))

/-- As many brackets may be open at a time where `parse` reads. -/
def maxDepth : Nat := 127

/-- The document of a text, as `document` reads it with the limit `maxDepth`. -/
def parse (text : String) : Except ReadError Json :=
  (document maxDepth).run text

/-- The value of a text: that of the document `parse` reads. -/
def parseValue (text : String) : Except ReadError Value :=
  (parse text).map toValue

/-! ## Passing over a document -/

/-- Passes over one member of an object: key, colon and value. -/
def skipMemberWith (value : Reader Unit) (_ : Unit) : Reader Unit := fun cs => do
  value (← colon (← skipString cs))

/-- Passes over a document in which at most `depth` brackets are open. -/
def skipWithin : Nat → Reader Unit := fun depth cs =>
  match skipSpace cs with
  | [] => malformedBefore .endInValue []
  | c :: rest =>
    if c = 'n' then do return ((), ← literalTail ['u', 'l', 'l'] rest)
    else if c = 't' then do return ((), ← literalTail ['r', 'u', 'e'] rest)
    else if c = 'f' then do return ((), ← literalTail ['a', 'l', 's', 'e'] rest)
    else if c = '-' || c.isDigit then do return ((), ← skipNumber (c :: rest))
    else if c = '"' then do return ((), ← skipString rest)
    else if c = '[' || c = '\x7b' then
      match depth with
      | 0 => malformedAt .tooDeep (c :: rest)
      | depth + 1 =>
        if c = '[' then do
          let (_, unread) ← items false (skipWithin depth) rest
          return ((), unread)
        -- Unlike a reader, this loop does not tell a comma too much from a missing key.
        else members false (skipMemberWith (skipWithin depth)) () rest
    else malformedAt .expectedValue (c :: rest)

/-- Passes over a document by `skipWithin`: no text has more open brackets than characters. -/
def skip : Reader Unit := fun cs =>
  skipWithin cs.length cs

end HttpStub.Json
