import HttpStub.Json.Fault

/-!
# Readers

A reader takes a value off the front of a text and hands back what it left unread. It either
succeeds or stops at the first fault in text order.
-/

namespace HttpStub.Json

/-- Reads an `α` off the front of a text: the value and what is left unread, or the first `Fault`.
-/
abbrev Reader (α : Type) := List Char → Except Fault (α × List Char)

/-- The text is malformed at its first character, or at its end if nothing is left. -/
def malformedAt {α : Type} (cause : Cause) (unread : List Char) : Except Fault α :=
  .error (.malformed cause unread 1)

/-- The text is malformed just before its first character. -/
def malformedBefore {α : Type} (cause : Cause) (unread : List Char) : Except Fault α :=
  .error (.malformed cause unread 0)

/-- Space, tab, line feed and carriage return may stand between tokens. -/
def isSpace (c : Char) : Bool :=
  c = ' ' || c = '\t' || c = '\n' || c = '\r'

/-- The text from its first token on, without what `isSpace`. -/
def skipSpace (cs : List Char) : List Char :=
  cs.dropWhile isSpace

/-- Takes the rest of a literal name whose first letter has been read. -/
def literalTail : List Char → List Char → Except Fault (List Char)
  | [], unread => .ok unread
  | _ :: _, [] => malformedBefore .endInValue []
  -- The first letter that differs is reported, not the name.
  | e :: es, c :: cs => if c = e then literalTail es cs else malformedAt .expectedIdent (c :: cs)

/-- Takes the colon between a key and its value. -/
def colon (cs : List Char) : Except Fault (List Char) :=
  match skipSpace cs with
  | [] => malformedBefore .endInObject []
  | c :: rest => if c = ':' then .ok rest else malformedAt .expectedColon (c :: rest)

/-- Reads a whole text: what follows the value may only be space. The fault, if there is one, is
located. -/
def Reader.run {α : Type} (read : Reader α) (text : String) : Except ReadError α :=
  let whole := text.toList
  let result := do
    let (a, unread) ← read whole
    match skipSpace unread with
    | [] => pure a
    | c :: rest => malformedAt .trailingCharacters (c :: rest)
  -- Only here the whole text is at hand, so only here a place can be told.
  result.mapError (Fault.locate whole)

end HttpStub.Json
