import HttpStub.Json.Read.Document
import HttpStub.Json.Text

/-!
# Codecs

A codec writes a type as a document and reads it back, from a text or from a value. Reading a text
goes through it once, so the first fault in text order is the one that is reported, be it in the
form or in the shape of the document.

A record is an object with a member for every field. Where it is read, a field may be missing and
then keeps its blank value, members of other names are passed over, and no field may come twice. An
array of the fields in their order is accepted as well, and may be shorter.
-/

namespace HttpStub

open Json

/-- How a type is written, and how it is read from a text with a limit on the open brackets, or from
a value. -/
structure Codec (α : Type) where
  write : α → Json
  read : Nat → Reader α
  ofJson : Json → Except Mismatch α

/-- One field of a record: its name and codec, and how it is taken from the record and put there.
`Codec.record` makes a codec of a list of them. -/
structure Field (σ : Type) where of ::
  {α : Type}
  name : String
  codec : Codec α
  get : σ → α
  set : σ → α → σ

namespace Field

variable {σ : Type}

/-- The document of the field in a record, by the codec of the field. -/
def write (field : Field σ) (s : σ) : Json :=
  field.codec.write (field.get s)

/-- Reads the field with its codec, and tells what it makes of a record. -/
def read (field : Field σ) (depth : Nat) : Json.Reader (σ → σ) := fun cs => do
  let (a, unread) ← field.codec.read depth cs
  return (fun s => field.set s a, unread)

/-- What a document makes of a record if the codec of the field takes it. -/
def ofJson (field : Field σ) (j : Json) : Except Json.Mismatch (σ → σ) := do
  let a ← field.codec.ofJson j
  return fun s => field.set s a

end Field

namespace Codec

variable {α σ : Type}

/-- The text of a value, as the codec writes it. -/
def text (codec : Codec α) (a : α) : String :=
  (codec.write a).text

/-- Reads a whole text, with the standard limit `maxDepth`. -/
def decode (codec : Codec α) (text : String) : Except ReadError α :=
  (codec.read maxDepth).run text

/-! ## Faults of shape -/

/-- What stands at the front of a text, read only as far as `Found` has to name it. -/
def found : List Char → Except Fault Found
  | [] => malformedBefore .endInValue []
  | c :: rest =>
    if c = 'n' then (literalTail ['u', 'l', 'l'] rest).map fun _ => .null
    else if c = 't' then (literalTail ['r', 'u', 'e'] rest).map fun _ => .bool true
    else if c = 'f' then (literalTail ['a', 'l', 's', 'e'] rest).map fun _ => .bool false
    else if c = '-' || c.isDigit then (numberLiteral (c :: rest)).map fun p => .number p.1
    else if c = '"' then (stringLiteral rest).map fun p => .string p.1
    else if c = '[' then .ok .sequence
    else if c = '\x7b' then .ok .map
    else malformedAt .expectedValue (c :: rest)

/-- Something else stands at the front of a text, unless what stands there is malformed. -/
def unsuitable (expected : String) (cs : List Char) : Except Fault α := do
  -- What is malformed comes first, even where it is of the wrong kind.
  .error (.unsuitable (.wrongType (← found cs) expected))

/-- What a document is, as `found` would name it. -/
def foundIn : Json → Found
  | .null => .null
  | .bool b => .bool b
  | .number n => .number n
  | .string s => .string s
  | .array _ => .sequence
  | .object _ => .map

/-- The document is something else, as `unsuitable` for texts. -/
def mismatch (expected : String) (j : Json) : Except Mismatch α :=
  .error (.wrongType (foundIn j) expected)

/-! ## Scalars -/

/-- Reads a string by `stringLiteral`. -/
def readString : Reader String := fun cs =>
  match skipSpace cs with
  | [] => malformedBefore .endInValue []
  | c :: rest => if c = '"' then stringLiteral rest else unsuitable "a string" (c :: rest)

/-- Strings, read by `readString`. -/
def string : Codec String where
  write := .string
  read _ := readString
  ofJson
    | .string s => .ok s
    | j => mismatch "a string" j

/-- Reads a truth value by its name. -/
def readBool : Reader Bool := fun cs =>
  match skipSpace cs with
  | [] => malformedBefore .endInValue []
  | c :: rest =>
    if c = 't' then do return (true, ← literalTail ['r', 'u', 'e'] rest)
    else if c = 'f' then do return (false, ← literalTail ['a', 'l', 's', 'e'] rest)
    else unsuitable "a boolean" (c :: rest)

/-- Truth values, read by `readBool`. -/
def bool : Codec Bool where
  write := .bool
  read _ := readBool
  ofJson
    | .bool b => .ok b
    | j => mismatch "a boolean" j

/-- How signed 64-bit words are called in messages. -/
def wordName : String := "i64"

/-- The signed 64-bit word of a number; a double is none, whatever its value. -/
def word? : Number → Except Mismatch Int64
  | .int n =>
    -- The bounds are those of the signed word: more fits into a document.
    if -0x8000000000000000 ≤ n ∧ n < 0x8000000000000000 then .ok (Int64.ofInt n)
    else .error (.outOfRange n wordName)
  | .float x => .error (.wrongType (.number (.float x)) wordName)

/-- Reads a number by `numberLiteral`, and takes it for a word by `word?`. -/
def readWord : Reader Int64 := fun cs =>
  match skipSpace cs with
  | [] => malformedBefore .endInValue []
  | c :: rest =>
    if c = '-' || c.isDigit then do
      let (n, unread) ← numberLiteral (c :: rest)
      match word? n with
      | .ok w => return (w, unread)
      | .error m => .error (.unsuitable m)
    else unsuitable wordName (c :: rest)

/-- Signed 64-bit words, read by `readWord`. -/
def word : Codec Int64 where
  write w := .int w.toInt
  read _ := readWord
  ofJson
    | .number n => word? n
    | j => mismatch wordName j

/-! ## Lists and dictionaries -/

/-- Reads an array of what `item` reads, by `Json.items`. -/
def readList (item : Nat → Reader α) (depth : Nat) : Reader (List α) := fun cs =>
  match skipSpace cs with
  | [] => malformedBefore .endInValue []
  | c :: rest =>
    if c = '[' then
      match depth with
      -- The bracket itself is reported, not what is in it.
      | 0 => malformedAt .tooDeep (c :: rest)
      | depth + 1 => items true (item depth) rest
    else unsuitable "a sequence" (c :: rest)

/-- Arrays, read by `readList`. -/
def list (item : Codec α) : Codec (List α) where
  write as := .array (as.map item.write)
  read := readList item.read
  ofJson
    | .array js => js.mapM item.ofJson
    | j => mismatch "a sequence" j

/-- Reads one entry of a dictionary; it replaces an earlier one of the same name. -/
def readEntry (value : Reader α) (d : Dict α) : Reader (Dict α) := fun cs => do
  let (key, unread) ← stringLiteral cs
  let (a, unread) ← value (← colon unread)
  return (d.insert key a, unread)

/-- Reads an object as a dictionary, by `Json.members` and `readEntry`. -/
def readDict (value : Nat → Reader α) (depth : Nat) : Reader (Dict α) := fun cs =>
  match skipSpace cs with
  | [] => malformedBefore .endInValue []
  | c :: rest =>
    if c = '\x7b' then
      match depth with
      | 0 => malformedAt .tooDeep (c :: rest)
      | depth + 1 => members true (readEntry (value depth)) .empty rest
    else unsuitable "a map" (c :: rest)

/-- Dictionaries, read by `readDict`. -/
def dict (value : Codec α) : Codec (Dict α) where
  write := .ofDict value.write
  read := readDict value.read
  ofJson
    | .object ms => do
      return .ofList (← ms.mapM fun m => do return (m.1, ← value.ofJson m.2))
    | j => mismatch "a map" j

/-! ## Records -/

/-- Reads one member of an object into a record; the names of the fields met so far go with it. -/
def readMember (fields : List (Field σ)) (depth : Nat) (state : σ × List String) :
    Reader (σ × List String) := fun cs => do
  let (key, unread) ← stringLiteral cs
  match fields.find? fun field => field.name = key with
  | none =>
    -- No field has this name, so the member is passed over at any depth.
    let (_, unread) ← skip (← colon unread)
    return (state, unread)
  | some field =>
    -- The second member of a name is refused before its value is looked at.
    if key ∈ state.2 then .error (.unsuitable (.repeatedField key))
    else do
      let (update, unread) ← field.read depth (← colon unread)
      return ((update state.1, key :: state.2), unread)

/-- Reads the fields of a record as items of an array, up to its end or the last field. -/
def readFields (depth : Nat) : Bool → List (Field σ) → σ → Reader σ
  | _, [], s, cs => .ok (s, cs)
  | isFirst, field :: fields, s, cs =>
    match skipSpace cs with
    | [] => malformedBefore .endInList []
    | c :: rest =>
      if c = ']' then .ok (s, c :: rest)
      else if isFirst then do
        let (update, unread) ← field.read depth (c :: rest)
        readFields depth false fields (update s) unread
      else if c = ',' then
        let rest := skipSpace rest
        -- A comma promises another field.
        if rest.head? = some ']' then malformedAt .trailingComma rest
        else do
          let (update, unread) ← field.read depth rest
          readFields depth false fields (update s) unread
      else malformedAt .expectedCommaInList (c :: rest)

/-- Takes the bracket that ends an array of fields; another item is too much. -/
def endFields (cs : List Char) : Except Fault (List Char) :=
  match skipSpace cs with
  | [] => malformedBefore .endInList []
  | c :: rest =>
    if c = ']' then .ok rest
    else if c = ',' then
      let rest := skipSpace rest
      -- A comma is in order, but all fields have been read.
      malformedAt (if rest.head? = some ']' then .trailingComma else .trailingCharacters) rest
    else malformedAt .trailingCharacters (c :: rest)

/-- Reads a record, from an object by `readMember` or from an array by `readFields`. -/
def readRecord (type : String) (blank : σ) (fields : List (Field σ)) (depth : Nat) : Reader σ :=
  fun cs =>
  match skipSpace cs with
  | [] => malformedBefore .endInValue []
  | c :: rest =>
    if c = '\x7b' then
      match depth with
      | 0 => malformedAt .tooDeep (c :: rest)
      -- The members are read one bracket further in.
      | depth + 1 => do
        let (state, unread) ← members true (readMember fields depth) (blank, []) rest
        return (state.1, unread)
    else if c = '[' then
      match depth with
      | 0 => malformedAt .tooDeep (c :: rest)
      | depth + 1 => do
        let (s, unread) ← readFields depth true fields blank rest
        return (s, ← endFields unread)
    else unsuitable ("struct " ++ type) (c :: rest)

/-- Puts the members of an object into a record as `readMember` does; `seen` holds the names of the
fields met. -/
def ofMembers (fields : List (Field σ)) :
    List String → σ → List (String × Json) → Except Mismatch σ
  | _, s, [] => .ok s
  | seen, s, (key, j) :: ms =>
    match fields.find? fun field => field.name = key with
    -- A member of another name says nothing of the record.
    | none => ofMembers fields seen s ms
    | some field =>
      if key ∈ seen then .error (.repeatedField key)
      else do ofMembers fields (key :: seen) ((← field.ofJson j) s) ms

/-- Puts the items of an array into a record, field by field. -/
def ofItems (length : Nat) : List (Field σ) → σ → List Json → Except Mismatch σ
  -- Fields that the array is too short for keep what they have.
  | _, s, [] => .ok s
  | [], _, _ :: _ => .error (.tooManyElements length)
  | field :: fields, s, j :: js => do ofItems length fields ((← field.ofJson j) s) js

/-- Records, read by `readRecord`, whose missing fields are those of `blank`. -/
def record (type : String) (blank : σ) (fields : List (Field σ)) : Codec σ where
  write s := .object (fields.map fun field => (field.name, field.write s))
  read := readRecord type blank fields
  ofJson
    | .object ms => ofMembers fields [] blank ms
    | .array js => ofItems js.length fields blank js
    | j => mismatch ("struct " ++ type) j

end Codec

end HttpStub
