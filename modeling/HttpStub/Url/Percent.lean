import HttpStub.Text.Utf8

/-!
# Percent-encoding

A character that may not stand in some part of a URL is written as its bytes, each as a percent sign
and two hexadecimal digits in upper case. Every part has a set of its own. The percent sign is in
none of them, so what is encoded already is not encoded again.
-/

namespace HttpStub.Url.Percent

/-- The characters encoded in some part of a URL, as `encode` takes them. -/
abbrev CharSet := Char → Bool

/-- Controls and everything beyond ASCII are encoded in every part. -/
def controls : CharSet := fun c => c.toNat < 0x20 || 0x7F ≤ c.toNat

/-- The characters encoded in a fragment, besides `controls`. -/
def fragment : CharSet := fun c => controls c || [' ', '"', '<', '>', '\x60'].contains c

/-- The characters encoded in a query, besides `controls`. -/
def query : CharSet := fun c => controls c || [' ', '"', '#', '<', '>'].contains c

/-- The characters encoded in the query of a special scheme: the apostrophe besides those of
`query`. -/
def specialQuery : CharSet := fun c => query c || c = '\''

/-- The characters encoded in a path, besides those of `fragment`. -/
def path : CharSet := fun c => fragment c || ['#', '?', '\x7b', '\x7d'].contains c

/-- The characters encoded in a user name or password, besides those of `path`. -/
def userinfo : CharSet := fun c =>
  path c || ['/', ':', ';', '=', '@', '[', '\\', ']', '^', '|'].contains c

/-- A hexadecimal digit in upper case. -/
def hexDigit (n : Nat) : Char :=
  if n < 10 then Char.ofNat ('0'.toNat + n) else Char.ofNat ('A'.toNat + (n - 10))

/-- The number of a hexadecimal digit in either case; of one in upper case it undoes `hexDigit`. -/
def hexValue? (c : Char) : Option Nat :=
  if '0' ≤ c ∧ c ≤ '9' then some (c.toNat - '0'.toNat)
  else if 'A' ≤ c ∧ c ≤ 'F' then some (c.toNat - 'A'.toNat + 10)
  else if 'a' ≤ c ∧ c ≤ 'f' then some (c.toNat - 'a'.toNat + 10)
  else none

/-- A byte in encoded form, with two digits by `hexDigit`. -/
def encodeByte (b : UInt8) : List Char :=
  ['%', hexDigit (b.toNat / 16), hexDigit (b.toNat % 16)]

/-- A character, encoded byte by byte with `encodeByte` if it is in the set. -/
def encodeChar (set : CharSet) (c : Char) : List Char :=
  if set c then (String.utf8EncodeChar c).flatMap encodeByte else [c]

/-- A text with all characters of the set encoded by `encodeChar`. -/
def encode (set : CharSet) (cs : List Char) : List Char :=
  cs.flatMap (encodeChar set)

/-- `encode` goes character by character. -/
@[simp] theorem encode_append (set : CharSet) (cs ds : List Char) :
    encode set (cs ++ ds) = encode set cs ++ encode set ds :=
  List.flatMap_append

/-- `encode` leaves a text without characters of the set as it is. -/
theorem encode_of_forall {set : CharSet} {cs : List Char} (h : ∀ c ∈ cs, set c = false) :
    encode set cs = cs := by
  -- By induction on the text; each character is encoded as itself.
  induction cs with
  | nil => rfl
  | cons c cs ih =>
    have hc := h c List.mem_cons_self
    have hrest := ih fun d hd => h d (List.mem_cons_of_mem _ hd)
    rw [encode, List.flatMap_cons, ← encode, hrest, encodeChar, hc]
    rfl

/-- The bytes that a text stands for. A percent sign without two digits behind it stands for itself.
-/
def decode : List Char → List UInt8
  | [] => []
  | '%' :: x :: y :: cs =>
    match hexValue? x, hexValue? y with
    | some a, some b => UInt8.ofNat (a * 16 + b) :: decode cs
    -- What follows the sign is read on its own, for it may begin an escape.
    | _, _ => String.utf8EncodeChar '%' ++ decode (x :: y :: cs)
  | c :: cs => String.utf8EncodeChar c ++ decode cs

end HttpStub.Url.Percent
