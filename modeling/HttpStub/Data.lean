import HttpStub.Json.Text
import HttpStub.Json.Fault

/-!
# Data to be sent as JSON

A `Data` is what a caller wants to see as JSON without building the document: it may hold integers
wider than 64 bits, maps with keys of any kind, and parts that refuse to be written. There are two
ways to write it. `document?` follows its order and writes every integer; `value?` builds a value,
where a later entry of a map replaces an earlier one of the same name and integers have 64 bits.
-/

namespace HttpStub

/-- A key of a map. -/
inductive Data.Key where
  /-- A key that is its own name. -/
  | string (s : String)
  /-- A key that is named by its digits. -/
  | integer (n : Int)
  /-- Any other kind of key, which cannot be written. -/
  | other
deriving DecidableEq

/-- What a caller hands over to be written as JSON, by `Data.document?` or `Data.value?`. -/
inductive Data where
  | null
  | bool (b : Bool)
  /-- An integer of any size. -/
  | integer (n : Int)
  /-- A floating-point number; what is not finite is written as null. -/
  | float (x : Float)
  | string (s : String)
  /-- Items in their order. -/
  | sequence (items : List Data)
  /-- Entries in their order, any of which may have the name of another one. -/
  | map (entries : List (Data.Key × Data))
  /-- A value that has been read before. -/
  | value (v : Json.Value)
  /-- A part that refuses to be written, with its reason. -/
  | failing (reason : String)

namespace Data

/-- Why data cannot be written; shown by `Failure.message`. -/
inductive Failure where
  /-- A key is neither a string nor an integer. -/
  | keyNotString
  /-- An integer does not fit, see `fitsWord`. -/
  | numberOutOfRange
  /-- A part refused, because of something at a place in a text if there is a place. -/
  | refused (reason : String) (place : Option Json.Position)
deriving DecidableEq

/-- The wording of a failure. -/
def Failure.message : Failure → String
  | .keyNotString => Json.Cause.keyNotString.message
  | .numberOutOfRange => Json.Cause.numberOutOfRange.message
  | .refused reason none => reason
  | .refused reason (some place) => reason ++ String.ofList place.chars

/-- The failure of a part that refuses to be written. The reason may name a place at its end; lines
are counted from one, so line zero is no place at all. -/
def Failure.ofReason (reason : String) : Failure :=
  match Json.Position.takeOff? reason.toList with
  | none => .refused reason none
  | some (front, place) =>
    .refused (String.ofList front) (if place.line = 0 then none else some place)

/-- The name that a key is written as in either way. -/
def Key.name? : Key → Except Failure String
  | .string s => .ok s
  | .integer n => .ok (String.ofList (Json.intChars n))
  | .other => .error .keyNotString

/-- Whether a signed or an unsigned 64-bit word can hold the integer. -/
def fitsWord (n : Int) : Bool :=
  -0x8000000000000000 ≤ n && n < 0x10000000000000000

mutual

/-- The document of the data, in its own order, with all entries of its maps. -/
def document? : Data → Except Failure Json
  | .null => .ok .null
  | .bool b => .ok (.bool b)
  -- No width is asked of an integer here.
  | .integer n => .ok (.int n)
  | .float x => .ok (.ofFloat x)
  | .string s => .ok (.string s)
  | .sequence items => return .array (← documentItems? items)
  | .map entries => return .object (← documentMembers? entries)
  | .value v => .ok v.json
  | .failing reason => .error (.ofReason reason)

/-- The documents of the items, up to the first that `document?` refuses. -/
def documentItems? : List Data → Except Failure (List Json)
  | [] => .ok []
  | d :: ds => return (← document? d) :: (← documentItems? ds)

/-- The members of a map, up to the first that fails; a key fails before its value. -/
def documentMembers? : List (Key × Data) → Except Failure (List (String × Json))
  | [] => .ok []
  | (k, d) :: es => return (← k.name?, ← document? d) :: (← documentMembers? es)

end

mutual

/-- The value of the data, with members by name, as a canonical document. -/
def valueJson? : Data → Except Failure Json
  | .null => .ok .null
  | .bool b => .ok (.bool b)
  | .integer n => if fitsWord n then .ok (.int n) else .error .numberOutOfRange
  | .float x => .ok (.ofFloat x)
  | .string s => .ok (.string s)
  -- Canonical items make a canonical array.
  | .sequence items => return .array (← valueItems? items)
  | .map entries => return .object (← valueMembers? [] entries)
  | .value v => .ok v.json
  | .failing reason => .error (.ofReason reason)

/-- The values of the items, up to the first that `valueJson?` refuses. -/
def valueItems? : List Data → Except Failure (List Json)
  | [] => .ok []
  | d :: ds => return (← valueJson? d) :: (← valueItems? ds)

/-- Puts the entries of a map into the members gathered before, by `Entries.insert`. -/
def valueMembers? (gathered : List (String × Json)) :
    List (Key × Data) → Except Failure (List (String × Json))
  | [] => .ok gathered
  | (k, d) :: es => do
    let name ← k.name?
    let j ← valueJson? d
    -- Different keys may have the same name, as 1 and "1"; the later entry stays.
    valueMembers? (Entries.insert name j gathered) es

end

/-- The text of `document?`. -/
def text? (d : Data) : Except Failure String :=
  d.document?.map Json.text

/-- The data as a `Json.Value`, by `valueJson?`. -/
def value? (d : Data) : Except Failure Json.Value :=
  d.valueJson?.map Json.toValue

end Data

end HttpStub
