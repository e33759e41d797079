/-!
# Punycode

International labels of a domain in ASCII letters: first the ASCII characters of the label, then one
number for each other character. The characters are taken by increasing code point, and a number
says how many code points and places have to be passed over to come to the next one.
-/

namespace HttpStub.Url.Punycode

/-- A digit of base 36: letters first, then figures. -/
def digitChar (n : Nat) : Char :=
  if n < 26 then Char.ofNat ('a'.toNat + n) else Char.ofNat ('0'.toNat + (n - 26))

/-- The value of a digit in either case; it undoes `digitChar`. -/
def digitValue? (c : Char) : Option Nat :=
  if 'a' ≤ c ∧ c ≤ 'z' then some (c.toNat - 'a'.toNat)
  else if 'A' ≤ c ∧ c ≤ 'Z' then some (c.toNat - 'A'.toNat)
  else if '0' ≤ c ∧ c ≤ '9' then some (c.toNat - '0'.toNat + 26)
  else none

/-- The first code point beyond ASCII, which the walk of `place` begins with. -/
def firstCode : Nat := 128

/-- The bias before the first number; `adapt` gives the later ones. -/
def firstBias : Nat := 72

/-- A digit below the threshold is the last of its number. `place` is 36 for the first digit of a
number and grows by 36 from digit to digit. -/
def threshold (bias place : Nat) : Nat :=
  min 26 (max 1 (place - bias))

/-- Any `threshold` lies between the digits `1` and `26`. -/
theorem threshold_bounds (bias place : Nat) :
    1 ≤ threshold bias place ∧ threshold bias place ≤ 26 := by
  unfold threshold
  omega

/-- Scales a step down to the range of the digits, for `adapt`. -/
def scale (step offset : Nat) : Nat :=
  if 455 < step then scale (step / 35) (offset + 36) else offset + 36 * step / (step + 38)
termination_by step

/-- The bias after a step, when so many characters have been placed. -/
def adapt (step placed : Nat) (isFirst : Bool) : Nat :=
  let step := if isFirst then step / 700 else step / 2
  scale (step + step / placed) 0

/-! ## Encoding -/

/-- The digits of a number, up to one below its `threshold`. -/
def numberChars (bias place n : Nat) : List Char :=
  let t := threshold bias place
  if n < t then [digitChar n]
  else
    digitChar (t + (n - t) % (36 - t)) :: numberChars bias (place + 36) ((n - t) / (36 - t))
termination_by n
decreasing_by
  have ht := threshold_bounds bias place
  have hdiv := Nat.div_le_self (n - threshold bias place) (36 - threshold bias place)
  omega

/-- Where an encoding stands. -/
structure State where
  digits : List Char
  /-- The places passed over since the last number. -/
  step : Nat
  /-- The bias, which `adapt` sets after each number. -/
  bias : Nat
  /-- How many characters have been placed. -/
  placed : Nat

/-- Comes past one character of the label while the code point `code` is placed. -/
def pass (code basics : Nat) (s : State) (c : Char) : State :=
  if c.toNat < code then { s with step := s.step + 1 }
  else if c.toNat = code then
    { digits := s.digits ++ numberChars s.bias 36 s.step, step := 0,
      bias := adapt s.step (s.placed + 1) (s.placed = basics), placed := s.placed + 1 }
  else s

/-- Places the code points in turn; all below `next` have been placed. -/
def place (label : List Char) (basics : Nat) : Nat → List Nat → State → State
  | _, [], s => s
  | next, code :: codes, s =>
    let start := { s with step := s.step + (code - next) * (s.placed + 1) }
    let passed := label.foldl (pass code basics) start
    -- At the end of the label the walk begins again with the next code point.
    place label basics (code + 1) codes { passed with step := passed.step + 1 }

/-- A label in ASCII letters, which `decode?` reads. -/
def encode (label : List Char) : List Char :=
  let basics := label.filter fun c => c.toNat < firstCode
  let others := (label.filter fun c => firstCode ≤ c.toNat).map Char.toNat
  -- Every code point is passed once, however often it stands in the label.
  let codes := others.eraseDups.mergeSort
  let start : State := ⟨[], 0, firstBias, basics.length⟩
  let mark := if basics.isEmpty then [] else ['-']
  basics ++ mark ++ (place label basics.length firstCode codes start).digits

/-! ## Decoding -/

/-- Takes a number off the front, as `numberChars` writes it: what it adds to `sum`, and what is
left. -/
def takeNumber? (bias : Nat) : Nat → Nat → Nat → List Char → Option (Nat × List Char)
  | _, _, _, [] => none
  | place, weight, sum, c :: cs =>
    match digitValue? c with
    | none => none
    | some d =>
      let t := threshold bias place
      let sum := sum + d * weight
      if d < t then some (sum, cs) else takeNumber? bias (place + 36) (weight * (36 - t)) sum cs

/-- `takeNumber?` takes off at least one digit. -/
theorem length_takeNumber?_lt {bias place weight sum : Nat} {cs : List Char}
    {r : Nat × List Char} (h : takeNumber? bias place weight sum cs = some r) :
    r.2.length < cs.length := by
  -- By induction on the digits, whatever place and weight they have.
  induction cs generalizing place weight sum with
  | nil => simp [takeNumber?] at h
  | cons c cs ih =>
    rw [takeNumber?] at h
    split at h
    · simp at h
    · dsimp only at h
      split at h
      · cases h
        exact Nat.lt_succ_self _
      · exact Nat.lt_succ_of_lt (ih h)

/-- Puts the characters of the numbers between those that are placed, one by one with `takeNumber?`.
-/
def insertAll? (code index bias : Nat) (placed : List Char) (cs : List Char) :
    Option (List Char) :=
  if cs.isEmpty then some placed
  else
    match _h : takeNumber? bias 36 1 index cs with
    | none => none
    | some (sum, rest) =>
      -- The sum counts places in a label of this length, and wraps into the code point.
      let count := placed.length + 1
      let code := code + sum / count
      if code.isValidChar then
        insertAll? code (sum % count + 1) (adapt (sum - index) count (index = 0))
          (placed.insertIdx (sum % count) (Char.ofNat code)) rest
      else none
termination_by cs.length
decreasing_by exact length_takeNumber?_lt _h

/-- The label that a text encodes, its numbers by `insertAll?`. A hyphen at its very front is no
mark behind ASCII characters, and no digit either. -/
def decode? (cs : List Char) : Option (List Char) :=
  if cs.all fun c => c.toNat < firstCode then
    match cs.reverse.span (· ≠ '-') with
    -- The last hyphen is the mark, for digits are none.
    | (digits, _ :: c :: basics) =>
      insertAll? firstCode 0 firstBias (c :: basics).reverse digits.reverse
    | _ => insertAll? firstCode 0 firstBias [] cs
  else none

end HttpStub.Url.Punycode
