import HttpStub.Text.Composition.Table

/-!
# Composed text

The same text may be written in several ways: with composites, or with marks behind the characters
they belong to, in more than one order. `compose` gives one of them for all: the text is decomposed,
its marks are put in the order of their combining classes, and what has a composite is composed.
Syllables of the Korean script are composites too, of two or three letters, and are computed.
-/

namespace HttpStub.Text.Composition

/-- The combining class of a character as `classes` has it; it is zero for one that is no mark. -/
def combiningClass (c : Char) : Nat :=
  -- The first character of another class.
  if c.toNat < 0x300 then 0
  else ((classes.find? fun entry => entry.2.contains c).map Prod.fst).getD 0

/-! ## Syllables -/

/-- The first syllable; all others follow in the order of their letters. -/
def firstSyllable : Nat := 0xAC00

/-- The first of the nineteen letters that begin a syllable. -/
def firstLead : Nat := 0x1100

/-- The first of the twenty-one vowels. -/
def firstVowel : Nat := 0x1161

/-- The letter before the first of the twenty-seven that end a syllable. -/
def beforeTails : Nat := 0x11A7

/-- Whether a character is a syllable; there are as many as choices of a lead, a vowel and a tail or
none. -/
def isSyllable (c : Char) : Bool :=
  firstSyllable ≤ c.toNat && c.toNat < firstSyllable + 19 * 21 * 28

/-- The letters of a syllable, by its place behind `firstSyllable`. -/
def letters (c : Char) : List Char :=
  let place := c.toNat - firstSyllable
  let lead := Char.ofNat (firstLead + place / 28 / 21)
  let vowel := Char.ofNat (firstVowel + place / 28 % 21)
  -- A syllable without a tail is the first of its twenty-eight.
  if place % 28 = 0 then [lead, vowel]
  else [lead, vowel, Char.ofNat (beforeTails + place % 28)]

/-- The syllable of a letter that begins one and a vowel, or of a syllable without end and a letter
that ends one. It undoes `letters`. -/
def syllable? (a b : Char) : Option Char :=
  -- A lead and a vowel.
  if firstLead ≤ a.toNat ∧ a.toNat < firstLead + 19 ∧
      firstVowel ≤ b.toNat ∧ b.toNat < firstVowel + 21 then
    some (Char.ofNat
      (firstSyllable + ((a.toNat - firstLead) * 21 + (b.toNat - firstVowel)) * 28))
  -- A syllable without a tail, and a tail.
  else if isSyllable a ∧ (a.toNat - firstSyllable) % 28 = 0 ∧
      beforeTails < b.toNat ∧ b.toNat < beforeTails + 28 then
    some (Char.ofNat (a.toNat + (b.toNat - beforeTails)))
  else none

/-! ## Decomposed text -/

/-- Replaces a character by what the composites say. The base of a `Composite` is looked up in the
rows behind it. -/
def expand : List Composite → Char → List Char
  | [], c => [c]
  | p :: rest, c => if p.char = c then expand rest p.base ++ [p.mark] else expand rest c

/-- The characters that a character stands for, by `letters` or by `expand`. -/
def decomposeChar (c : Char) : List Char :=
  -- The first composite.
  if c.toNat < 0xC0 then [c]
  else if isSyllable c then letters c
  else expand composites c

/-- Puts a character before a text whose marks are in order. It has to pass marks of lower class. -/
def insertMark (c : Char) : List Char → List Char
  | [] => [c]
  | d :: ds =>
    -- A character of class zero is passed by no mark.
    if 0 < combiningClass d ∧ combiningClass d < combiningClass c then d :: insertMark c ds
    else c :: d :: ds

/-- Orders the marks behind each character by `combiningClass`, those of one class in the order they
have. -/
def orderMarks : List Char → List Char
  | [] => []
  | c :: cs => insertMark c (orderMarks cs)

/-- The text without composites, its marks in order: `decomposeChar` for each, and `orderMarks`. -/
def decompose (cs : List Char) : List Char :=
  orderMarks (cs.flatMap decomposeChar)

/-! ## Composed text -/

/-- The composite of two characters: a `syllable?`, or a row of `composites`. -/
def composite? (a b : Char) : Option Char :=
  -- The first mark of a composite.
  if b.toNat < 0x300 then none
  else
    (syllable? a b).or
      ((composites.find? fun p => p.base = a && p.mark = b).map Composite.char)

/-- Composes the text behind a character and the marks that stay behind it. A character is composed
with the first one if nothing of its class or a higher one stands between them. -/
def composeBehind (base : Char) (marks : List Char) : List Char → List Char
  | [] => base :: marks
  | c :: cs =>
    let isNear := marks.getLast?.all fun d => combiningClass d < combiningClass c
    match if isNear then composite? base c else none with
    | some whole => composeBehind whole marks cs
    | none =>
      -- The next character of class zero is composed in its turn with what is behind it.
      if combiningClass c = 0 then base :: marks ++ composeBehind c [] cs
      else composeBehind base (marks ++ [c]) cs

/-- The text with as many composites as there can be, each made by `composeBehind`. Marks at its
very front stay. -/
def compose (cs : List Char) : List Char :=
  let decomposed := decompose cs
  let isMark (c : Char) : Bool := combiningClass c ≠ 0
  decomposed.takeWhile isMark ++
    match decomposed.dropWhile isMark with
    | [] => []
    | base :: rest => composeBehind base [] rest

end HttpStub.Text.Composition
