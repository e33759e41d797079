/-!
# Header fields

A field name is a token and means the same in upper and lower case; it is kept in lower case. A
value is a sequence of bytes. A map may hold several values under one name, in the order in which
they were added.
-/

namespace HttpStub.Http

/-- Why a field cannot be used. -/
inductive HeaderFault where
  | invalidName
  | invalidValue
deriving DecidableEq

/-- The wording of a fault. -/
def HeaderFault.message : HeaderFault → String
  | .invalidName => "invalid HTTP header name"
  | .invalidValue => "failed to parse header value"

/-- Letters, digits and a few marks make up a token. -/
def isTokenChar (c : Char) : Bool :=
  c.isAlphanum ||
    ['!', '#', '$', '%', '&', '\'', '*', '+', '-', '.', '^', '_', '\x60', '|', '~'].contains c

/-- The greatest length of a name. -/
def maxNameLength : Nat := 65535

/-- A field name in lower case, made by `HeaderName.ofString?`. -/
structure HeaderName where
  text : String
deriving DecidableEq

/-- The name a text stands for: a token of at most `maxNameLength`, whatever its case. -/
def HeaderName.ofString? (s : String) : Option HeaderName :=
  let cs := s.toList
  -- A token has only ASCII characters, so its length in characters is that in bytes.
  if cs ≠ [] ∧ cs.length ≤ maxNameLength ∧ cs.all isTokenChar then
    some ⟨String.ofList (cs.map Char.toLower)⟩
  else none

/-- The bytes of a field value. -/
structure HeaderValue where
  bytes : List UInt8
deriving DecidableEq

namespace HeaderValue

/-- Controls other than the tab cannot stand in a value. -/
def isValidByte (b : UInt8) : Bool :=
  b = 9 || (32 ≤ b && b ≠ 127)

/-- The value of these bytes, if `isValidByte` allows all of them. -/
def ofBytes? (bytes : List UInt8) : Option HeaderValue :=
  if bytes.all isValidByte then some ⟨bytes⟩ else none

/-- The value whose bytes are those of the text in UTF-8. -/
def ofString? (s : String) : Option HeaderValue :=
  ofBytes? s.toUTF8.data.toList

/-- The value whose bytes are the code points of the text, if all are below 256. -/
def ofLatin1? (s : String) : Option HeaderValue :=
  if s.toList.all fun c => c.toNat < 256 then
    ofBytes? (s.toList.map fun c => UInt8.ofNat c.toNat)
  else none

/-- Every byte as the code point of the same number. -/
def latin1 (v : HeaderValue) : String :=
  String.ofList (v.bytes.map fun b => Char.ofNat b.toNat)

/-- The value as a text, if it consists of visible characters, spaces and tabs. -/
def visible? (v : HeaderValue) : Option String :=
  if v.bytes.all fun b => b = 9 || (32 ≤ b && b < 127) then some v.latin1 else none

end HeaderValue

/-- Fields in the order of their addition, by `append` or `insert`. -/
structure HeaderMap where
  fields : List (HeaderName × HeaderValue)
deriving DecidableEq

namespace HeaderMap

/-- No fields. -/
def empty : HeaderMap := ⟨[]⟩

/-- The values under a name, in the order in which they were added. -/
def getAll (m : HeaderMap) (name : HeaderName) : List HeaderValue :=
  (m.fields.filter fun field => field.1 = name).map Prod.snd

/-- The first value under a name. -/
def get? (m : HeaderMap) (name : HeaderName) : Option HeaderValue :=
  (m.getAll name).head?

/-- Adds a value and keeps those that are there. -/
def append (m : HeaderMap) (name : HeaderName) (value : HeaderValue) : HeaderMap :=
  ⟨m.fields ++ [(name, value)]⟩

/-- Puts a value in the place of all that are there. -/
def insert (m : HeaderMap) (name : HeaderName) (value : HeaderValue) : HeaderMap :=
  ⟨(m.fields.filter fun field => field.1 ≠ name) ++ [(name, value)]⟩

/-- What `append` adds comes last under its name. -/
theorem getAll_append (m : HeaderMap) (name key : HeaderName) (value : HeaderValue) :
    (m.append name value).getAll key =
      if name = key then m.getAll key ++ [value] else m.getAll key := by
  by_cases h : name = key <;> simp [append, getAll, h]

/-- What `insert` puts in is the only value under its name. -/
theorem getAll_insert (m : HeaderMap) (name key : HeaderName) (value : HeaderValue) :
    (m.insert name value).getAll key = if name = key then [value] else m.getAll key := by
  by_cases h : name = key
  · subst h
    simp [insert, getAll, List.filter_filter]
  · -- Other names lose nothing by the filter.
    have hkeep : ∀ field : HeaderName × HeaderValue,
        (decide (field.1 = key) && decide (field.1 ≠ name)) = decide (field.1 = key) := by
      intro field
      by_cases hk : field.1 = key
      · have hne : key ≠ name := fun he => h he.symm
        simp [hk, hne]
      · simp [hk]
    simp only [insert, getAll, List.filter_append, List.filter_filter, hkeep]
    simp [h]

end HeaderMap

end HttpStub.Http
