import HttpStub.Json.Read.Basic

/-!
# Reading string literals

Both readers here start behind the opening quote and stop behind the closing one. `stringLiteral`
decodes the escapes, and wants the halves of a surrogate pair to stand together. `skipString` only
looks for the end: it accepts lone halves, and stops before a control character, not behind it.
-/

namespace HttpStub.Json

/-- The value of a hexadecimal digit in either case. -/
def hexValue? (c : Char) : Option Nat :=
  if '0' ≤ c ∧ c ≤ '9' then some (c.toNat - '0'.toNat)
  else if 'a' ≤ c ∧ c ≤ 'f' then some (c.toNat - 'a'.toNat + 10)
  else if 'A' ≤ c ∧ c ≤ 'F' then some (c.toNat - 'A'.toNat + 10)
  else none

/-- The value of four hexadecimal digits, by `hexValue?` each. -/
def hexValue4? (a b c d : Char) : Option Nat := do
  return (((← hexValue? a) * 16 + (← hexValue? b)) * 16 + (← hexValue? c)) * 16 + (← hexValue? d)

/-- Four bytes that are no digits are an invalid escape; fewer bytes are the end of the text. -/
def badHexEscape (cs : List Char) : Fault :=
  -- Bytes count, not characters: a long character may fill the four places.
  if byteLength cs < 4 then .malformed .endInString [] 0 else .malformed .invalidEscape cs 4

/-- Reads the four hexadecimal digits of an escape, or else reports `badHexEscape`. -/
def hexEscape (cs : List Char) : Except Fault (Nat × List Char) :=
  match cs with
  | a :: b :: c :: d :: rest =>
    match hexValue4? a b c d with
    | some n => .ok (n, rest)
    | none => .error (badHexEscape cs)
  | _ => .error (badHexEscape cs)

/-- The first half of a surrogate pair. -/
def isLeading (n : Nat) : Bool :=
  0xD800 ≤ n && n ≤ 0xDBFF

/-- The second half of a surrogate pair. -/
def isTrailing (n : Nat) : Bool :=
  0xDC00 ≤ n && n ≤ 0xDFFF

/-- The character of a surrogate pair, ten bits from each half. -/
def pairChar (leading trailing : Nat) : Char :=
  Char.ofNat (0x10000 + (leading - 0xD800) * 0x400 + (trailing - 0xDC00))

/-- Reads the second half of a pair, escape letters included. -/
def trailingEscape (leading : Nat) : Reader Char
  | [] => malformedBefore .endInString []
  | '\\' :: [] => malformedBefore .endInString []
  | '\\' :: 'u' :: cs =>
    match hexEscape cs with
    | .error fault => .error fault
    | .ok (n, rest) =>
      if isTrailing n then .ok (pairChar leading n, rest) else malformedBefore .loneSurrogate rest
  | '\\' :: c :: cs => malformedAt .endOfHexEscape (c :: cs)
  | c :: cs => malformedAt .endOfHexEscape (c :: cs)

/-- Reads an escape by code unit, from behind its letter on. -/
def unitEscape (cs : List Char) : Except Fault (Char × List Char) :=
  match hexEscape cs with
  | .error fault => .error fault
  | .ok (n, rest) =>
    -- A trailing half has to come behind a leading one.
    if isTrailing n then malformedBefore .loneSurrogate rest
    -- A leading half is nothing without the escape behind it.
    else if isLeading n then trailingEscape n rest
    else .ok (Char.ofNat n, rest)

/-- The character of an escape by letter. -/
def letterEscape? (c : Char) : Option Char :=
  if c = '"' then some '"'
  else if c = '\\' then some '\\'
  else if c = '/' then some '/'
  else if c = 'b' then some '\x08'
  else if c = 'f' then some '\x0c'
  else if c = 'n' then some '\n'
  else if c = 'r' then some '\r'
  else if c = 't' then some '\t'
  else none

/-- Reads an escape from behind its backslash on, by `letterEscape?` or `unitEscape`. -/
def escape : Reader Char
  | [] => malformedBefore .endInString []
  | c :: rest =>
    match letterEscape? c with
    | some d => .ok (d, rest)
    | none => if c = 'u' then unitEscape rest else malformedAt .invalidEscape (c :: rest)

/-- `hexEscape` takes its four digits. -/
theorem length_hexEscape {cs rest : List Char} {n : Nat} (h : hexEscape cs = .ok (n, rest)) :
    rest.length < cs.length := by
  unfold hexEscape at h
  split at h
  · split at h
    · cases h; simp; omega
    · cases h
  · cases h

/-- `trailingEscape` takes at least its digits. -/
theorem length_trailingEscape {leading : Nat} {cs rest : List Char} {d : Char}
    (h : trailingEscape leading cs = .ok (d, rest)) : rest.length < cs.length := by
  unfold trailingEscape at h
  split at h <;> try cases h
  rename_i cs'
  split at h
  · cases h
  · rename_i hhex
    have := length_hexEscape hhex
    split at h
    · obtain ⟨-, rfl⟩ := Prod.mk.inj (Except.ok.inj h); simp; omega
    · cases h

/-- So does `unitEscape`. -/
theorem length_unitEscape {cs rest : List Char} {d : Char} (h : unitEscape cs = .ok (d, rest)) :
    rest.length < cs.length := by
  unfold unitEscape at h
  split at h
  · cases h
  · rename_i hhex
    have := length_hexEscape hhex
    split at h
    · cases h
    · split at h
      · have := length_trailingEscape h; omega
      · obtain ⟨-, rfl⟩ := Prod.mk.inj (Except.ok.inj h); omega

/-- `escape` takes at least one character. -/
theorem length_escape {cs rest : List Char} {d : Char} (h : escape cs = .ok (d, rest)) :
    rest.length < cs.length := by
  unfold escape at h
  split at h
  · cases h
  · split at h
    · cases h; simp
    · split at h
      · have := length_unitEscape h; simp; omega
      · cases h

/-- Reads the characters up to the closing quote, escapes by `escape`. -/
def stringChars (cs : List Char) : Except Fault (List Char × List Char) :=
  match cs with
  | [] => malformedBefore .endInString []
  | c :: rest =>
    if c = '"' then .ok ([], rest)
    else if c = '\\' then
      match _h : escape rest with
      | .error fault => .error fault
      | .ok (d, unread) => do
        let (ds, unread) ← stringChars unread
        return (d :: ds, unread)
    -- The reader has come past the control character when it reports it.
    else if c.toNat < 0x20 then malformedBefore .controlCharacter rest
    else do
      let (ds, unread) ← stringChars rest
      return (c :: ds, unread)
termination_by cs.length
decreasing_by
  · have := length_escape _h; simp; omega
  · simp

/-- Reads a string literal from behind its opening quote on, by `stringChars`. -/
def stringLiteral : Reader String := fun cs => do
  let (ds, unread) ← stringChars cs
  return (String.ofList ds, unread)

/-- Passes over an escape from behind its backslash on. Halves of a pair need not stand together. -/
def skipEscape : List Char → Except Fault (List Char)
  | [] => malformedBefore .endInString []
  | c :: rest =>
    if (letterEscape? c).isSome then .ok rest
    -- Any code unit will do, halves of a surrogate pair included.
    else if c = 'u' then (hexEscape rest).map Prod.snd
    else malformedAt .invalidEscape (c :: rest)

/-- So does `skipEscape`, which reads nothing. -/
theorem length_skipEscape {cs rest : List Char} (h : skipEscape cs = .ok rest) :
    rest.length < cs.length := by
  unfold skipEscape at h
  split at h
  · cases h
  · split at h
    · cases h; simp
    · split at h
      · rename_i cs' _ _
        cases hhex : hexEscape cs' with
        | error fault => rw [hhex] at h; cases h
        | ok p =>
          rw [hhex] at h
          cases h
          have := length_hexEscape hhex
          simp; omega
      · cases h

/-- Passes over a string literal from behind its opening quote on, without decoding it. -/
def skipString (cs : List Char) : Except Fault (List Char) :=
  match cs with
  | [] => malformedBefore .endInString []
  | c :: rest =>
    if c = '"' then .ok rest
    else if c = '\\' then
      match _h : skipEscape rest with
      | .error fault => .error fault
      | .ok unread => skipString unread
    -- Here the control character is still unread.
    else if c.toNat < 0x20 then malformedBefore .controlCharacter (c :: rest)
    else skipString rest
termination_by cs.length
decreasing_by
  · have := length_skipEscape _h; simp; omega
  · simp

end HttpStub.Json
