import HttpStub.Json.Position
import HttpStub.Text.Quoted

/-!
# Why a text cannot be read

A text is malformed if it is not the text of a document, and unsuitable if it is one of the wrong
shape. While reading, a malformed text is described by what is still unread; `Fault.locate` turns
this into a line and a byte column once the whole text is at hand.
-/

namespace HttpStub.Json

/-- What is wrong with a malformed text; worded by `Cause.message`. -/
inductive Cause where
  /-- The text ends where a value should be. -/
  | endInValue
  /-- The text ends within an array. -/
  | endInList
  /-- The text ends within an object. -/
  | endInObject
  /-- The text ends within a string. -/
  | endInString
  /-- What stands there begins no value. -/
  | expectedValue
  /-- The name that has begun is another one. -/
  | expectedIdent
  /-- There is no colon behind a key. -/
  | expectedColon
  /-- There is neither comma nor bracket behind an item. -/
  | expectedCommaInList
  /-- There is neither comma nor brace behind a member. -/
  | expectedCommaInObject
  /-- A member begins without a quote. -/
  | keyNotString
  /-- Behind a comma the array or object ends. -/
  | trailingComma
  /-- The text goes on behind the value. -/
  | trailingCharacters
  /-- A digit is missing or too much. -/
  | invalidNumber
  /-- A number is too great for a double. -/
  | numberOutOfRange
  /-- There is no such escape. -/
  | invalidEscape
  /-- Half of a surrogate pair stands alone. -/
  | loneSurrogate
  /-- The other half of a surrogate pair is missing. -/
  | endOfHexEscape
  /-- A control character stands in a string. -/
  | controlCharacter
  /-- More brackets are open than the reader allows. -/
  | tooDeep
deriving DecidableEq

/-- The wording of a cause. -/
def Cause.message : Cause → String
  | .endInValue => "EOF while parsing a value"
  | .endInList => "EOF while parsing a list"
  | .endInObject => "EOF while parsing an object"
  | .endInString => "EOF while parsing a string"
  | .expectedValue => "expected value"
  | .expectedIdent => "expected ident"
  | .expectedColon => "expected `:`"
  | .expectedCommaInList => "expected `,` or `]`"
  | .expectedCommaInObject => "expected `,` or `\x7d`"
  | .keyNotString => "key must be a string"
  | .trailingComma => "trailing comma"
  | .trailingCharacters => "trailing characters"
  | .invalidNumber => "invalid number"
  | .numberOutOfRange => "number out of range"
  | .invalidEscape => "invalid escape"
  | .loneSurrogate => "lone leading surrogate in hex escape"
  | .endOfHexEscape => "unexpected end of hex escape"
  | .controlCharacter => "control character (\\u0000-\\u001F) found while parsing a string"
  | .tooDeep => "recursion limit exceeded"

/-- What was found where something else was expected; worded by `Found.message`. -/
inductive Found where
  | null
  | bool (b : Bool)
  | number (n : Number)
  | string (s : String)
  | sequence
  | map
deriving DecidableEq

/-- The wording of what was found; literal values stand between grave accents. -/
def Found.message : Found → String
  | .null => "null"
  | .bool true => "boolean `true`"
  | .bool false => "boolean `false`"
  | .number (.int n) => "integer `" ++ String.ofList (intChars n) ++ "`"
  -- A double is shown as it would be written.
  | .number (.float x) =>
    "floating point `" ++ String.ofList (Number.float x).chars ++ "`"
  | .string s => "string " ++ Text.quoted s
  | .sequence => "sequence"
  | .map => "map"

/-- How a document fails to have the shape that was asked for; worded by `Mismatch.message`. -/
inductive Mismatch where
  /-- Something of another kind. -/
  | wrongType (found : Found) (expected : String)
  /-- An integer that the type cannot hold. -/
  | outOfRange (n : Int) (expected : String)
  /-- A field that comes twice. -/
  | repeatedField (name : String)
  /-- None of the variants of a type. -/
  | noVariant (type : String)
  /-- An array with more items than the record has fields. -/
  | tooManyElements (length : Nat)
deriving DecidableEq

/-- The wording of a mismatch. -/
def Mismatch.message : Mismatch → String
  | .wrongType found expected => "invalid type: " ++ found.message ++ ", expected " ++ expected
  | .outOfRange n expected =>
    "invalid value: " ++ (Found.number (.int n)).message ++ ", expected " ++ expected
  | .repeatedField name => "duplicate field `" ++ name ++ "`"
  | .noVariant type => "data did not match any variant of untagged enum " ++ type
  | .tooManyElements length =>
    "invalid length " ++ String.ofList (natChars length) ++ ", expected fewer elements in array"

/-- A fault met while reading, before `Fault.locate` has found its place. -/
inductive Fault where
  /-- The text is malformed where `unread` begins, or `ahead` bytes further on. -/
  | malformed (cause : Cause) (unread : List Char) (ahead : Nat)
  /-- The text is that of another shape. -/
  | unsuitable (mismatch : Mismatch)
deriving DecidableEq

/-- A fault with its place in the text; worded by `ReadError.message`. -/
inductive ReadError where
  /-- The text is malformed at this place. -/
  | malformed (cause : Cause) (position : Position)
  /-- The text is that of another shape; no place is named. -/
  | unsuitable (mismatch : Mismatch)
deriving DecidableEq

/-- The wording of a reading error. -/
def ReadError.message : ReadError → String
  | .malformed cause position =>
    cause.message ++ String.ofList position.chars
  | .unsuitable mismatch => mismatch.message

/-- Finds the place of a fault in the text that was read, by `Position.advance`. -/
def Fault.locate (whole : List Char) : Fault → ReadError
  | .malformed cause unread ahead =>
    -- What is unread is the end of the whole, so its length tells where it begins.
    let offset := byteLength whole - byteLength unread + ahead
    .malformed cause (Position.advance ⟨1, 0⟩ offset whole)
  | .unsuitable mismatch => .unsuitable mismatch

end HttpStub.Json
