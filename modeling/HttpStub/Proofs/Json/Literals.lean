import HttpStub.Data
import HttpStub.Json.Read.NumberLiteral
import HttpStub.Json.Read.StringLiteral

/-!
# Literals are read back

What is written for a name, a string or an integer is read back as just that, whatever follows. A
string ends at its closing quote and a name with its last letter. A number ends where no digit,
point or exponent mark follows, so its text has to be `Delimited`.
-/

namespace HttpStub.Json

/-! ## Steps of a reader -/

/-- A step that succeeds hands its result to the next one. -/
@[simp] theorem ok_bind {ε α β : Type} (a : α) (f : α → Except ε β) :
    (Except.ok a >>= f) = f a := rfl

/-- `pure` in `Except` is `Except.ok`, so that `ok_bind` applies. -/
@[simp] theorem pure_eq_ok {ε α : Type} (a : α) : (pure a : Except ε α) = .ok a := rfl

/-- A text that begins with a token has no space for `skipSpace` to pass over. -/
theorem skipSpace_cons {c : Char} (hc : isSpace c = false) (cs : List Char) :
    skipSpace (c :: cs) = c :: cs := by
  simp [skipSpace, hc]

/-- `literalTail` takes a name off the front of what follows it. -/
theorem literalTail_append (name rest : List Char) :
    literalTail name (name ++ rest) = .ok rest := by
  induction name with
  | nil => rfl
  | cons c name ih => simp [literalTail, ih]

/-! ## Strings -/

/-- `hexValue?` reads back what `hexDigit` writes. -/
theorem hexValue?_hexDigit : ∀ n < 16, hexValue? (hexDigit n) = some n := by decide

/-- `hexValue4?` reads back the four digits of a control character. -/
theorem hexValue4?_hexDigit {n : Nat} (hn : n < 0x20) :
    hexValue4? '0' '0' (hexDigit (n / 16)) (hexDigit (n % 16)) = some n := by
  have hhigh := hexValue?_hexDigit (n / 16) (by omega)
  have hlow := hexValue?_hexDigit (n % 16) (by omega)
  have hzero : hexValue? '0' = some 0 := by decide
  simp only [hexValue4?, hzero, hhigh, hlow, bind, Option.bind, pure]
  congr 1
  omega

/-- `stringChars` reads a character that needs no escape as it is. -/
theorem stringChars_plain {c : Char} (hquote : c ≠ '"') (hslash : c ≠ '\\')
    (hcontrol : 0x20 ≤ c.toNat) (cs : List Char) :
    stringChars (c :: cs) = (stringChars cs).map fun r => (c :: r.1, r.2) := by
  rw [stringChars, if_neg hquote, if_neg hslash, if_neg (by omega)]
  cases stringChars cs <;> rfl

/-- `stringChars` reads an escape as the character that `escape` gives for it. -/
theorem stringChars_escape {cs unread : List Char} {d : Char}
    (h : escape cs = .ok (d, unread)) :
    stringChars ('\\' :: cs) = (stringChars unread).map fun r => (d :: r.1, r.2) := by
  rw [stringChars, if_neg (by decide), if_pos rfl]
  split
  · rename_i fault hfault
    rw [h] at hfault
    cases hfault
  · rename_i d' unread' hok
    rw [h] at hok
    obtain ⟨rfl, rfl⟩ := Prod.mk.inj (Except.ok.inj hok)
    cases stringChars unread <;> rfl

/-! ## Numbers -/

/-- What follows does not go on with a number. -/
def Delimited (rest : List Char) : Prop :=
  ∀ c ∈ rest.head?, c.isDigit = false ∧ c ≠ '.' ∧ c ≠ 'e' ∧ c ≠ 'E'

/-- `natChars` writes decimal digits only. -/
theorem isDigit_of_mem_natChars {n : Nat} {c : Char} (h : c ∈ natChars n) : c.isDigit = true :=
  Nat.isDigit_of_mem_toDigits (by decide) (by decide) h

/-- `natChars` writes at least one digit. -/
theorem natChars_ne_nil (n : Nat) : natChars n ≠ [] := Nat.toDigits_ne_nil

/-- Only zero is written by `natChars` with a zero in front. -/
theorem natChars_of_pos {n : Nat} (hn : 0 < n) :
    ∃ d ds, natChars n = d :: ds ∧ d ≠ '0' := by
  induction n using Nat.base_induction 10 (by decide) with
  | single m hm =>
    have hall : ∀ k < 10, 0 < k → Nat.digitChar k ≠ '0' := by decide
    exact ⟨m.digitChar, [], Nat.toDigits_of_lt_base hm, hall m hm hn⟩
  | digit m k hk hm ih =>
    -- The first digit is that of the number without its last one, which is positive as well.
    obtain ⟨d, ds, hds, hd⟩ := ih hm
    refine ⟨d, ds ++ natChars k, ?_, hd⟩
    rw [natChars, ← Nat.toDigits_append_toDigits (by decide) hm hk, ← natChars, hds, natChars]
    rfl

/-- The digits at the front of a text are taken off up to the first character that is none. -/
theorem span_isDigit {ds rest : List Char} (hds : ∀ c ∈ ds, c.isDigit = true)
    (hrest : ∀ c ∈ rest.head?, c.isDigit = false) :
    (ds ++ rest).takeWhile Char.isDigit = ds ∧ (ds ++ rest).dropWhile Char.isDigit = rest := by
  rw [List.takeWhile_append_of_pos hds, List.dropWhile_append_of_pos hds]
  cases rest with
  | nil => simp
  | cons c rest => simp [hrest c rfl]

namespace NumberLiteral

/-- `readExponent` finds no exponent in a text that is `Delimited`, and takes nothing off it. -/
theorem readExponent_of_delimited (atEnd : Cause) {rest : List Char}
    (hrest : Delimited rest) : readExponent atEnd rest = .ok (none, rest) := by
  cases rest with
  | nil => rfl
  | cons c rest =>
    obtain ⟨-, -, he, hE⟩ := hrest c rfl
    simp [readExponent, he, hE]

/-- Digits that are read on only make the number greater. -/
private theorem le_ofDigitChars (word : Nat) (ds : List Char) :
    word ≤ Nat.ofDigitChars 10 ds word := by
  induction ds generalizing word with
  | nil => simp
  | cons d ds ih =>
    rw [Nat.ofDigitChars_cons]
    exact Nat.le_trans (by omega) (ih _)

/-- The first digit is counted as `gather` counts it, with `digitValue`. -/
private theorem ofDigitChars_digit (word : Nat) (d : Char) (ds : List Char) :
    Nat.ofDigitChars 10 (d :: ds) word = Nat.ofDigitChars 10 ds (word * 10 + digitValue d) := by
  rw [Nat.ofDigitChars_cons, Nat.mul_comm 10 word]
  rfl

/-- `gather` drops no digit if and only if the number fits into a word. -/
private theorem gather_eq_iff {word n : Nat} {ds : List Char} (hword : word < UInt64.size) :
    gather word ds = (n, 0) ↔ Nat.ofDigitChars 10 ds word = n ∧ n < UInt64.size := by
  induction ds generalizing word with
  | nil =>
    simp only [gather, Prod.mk.injEq, and_true, Nat.ofDigitChars_nil]
    constructor
    · rintro rfl
      exact ⟨rfl, hword⟩
    · exact fun h => h.1
  | cons d ds ih =>
    rw [ofDigitChars_digit, gather]
    by_cases hnext : word * 10 + digitValue d < UInt64.size
    · rw [if_pos hnext, ih hnext]
    · -- A digit is dropped, and the digits dropped so far make the number too great already.
      rw [if_neg hnext]
      have hle := le_ofDigitChars (word * 10 + digitValue d) ds
      constructor
      · intro h
        cases (Prod.mk.inj h).2
      · omega

/-- What `integer` makes of a sign and a word is an integer of 64 bits exactly if the two are its
sign and its absolute value. -/
private theorem integer_eq_int_iff {negative : Bool} {word : Nat} (hword : word < UInt64.size)
    {n : Int} :
    integer negative word = .int n ↔
      Data.fitsWord n = true ∧ negative = decide (n < 0) ∧ word = n.natAbs := by
  have hsize : UInt64.size = 0x10000000000000000 := rfl
  rw [hsize] at hword
  simp only [Data.fitsWord, Bool.and_eq_true, decide_eq_true_eq]
  cases negative with
  | true =>
    have hneg : (true = decide (n < 0)) ↔ n < 0 := by rw [eq_comm, decide_eq_true_eq]
    simp only [integer, if_true, hneg]
    -- A word in front of which a minus stands is an integer up to `2 ^ 63`; zero is not.
    by_cases hsigned : 0 < word ∧ word ≤ 0x8000000000000000
    · rw [if_pos hsigned, Number.int.injEq]
      omega
    · rw [if_neg hsigned]
      simp only [reduceCtorEq, false_iff]
      omega
  -- Without a minus every word is an integer.
  | false =>
    have hneg : (false = decide (n < 0)) ↔ 0 ≤ n := by
      rw [eq_comm, decide_eq_false_iff_not, Int.not_lt]
    simp only [integer, Bool.false_eq_true, if_false, Number.int.injEq, hneg]
    omega

/-- What `float?` scales is no integer. -/
private theorem float?_elim_ne_int (negative : Bool) (word : Nat) (exponent n : Int) :
    (float? negative word exponent).elim (.error []) .ok ≠
      (.ok (.int n) : Except (List Char) Number) := by
  unfold float?
  cases scale? word.toUInt64.toFloat exponent <;> simp

/-- The literals whose value is a given integer: they have neither fraction nor exponent, and a
minus only if the integer is negative. -/
theorem value_eq_int_iff (l : NumberLiteral) {n : Int} :
    l.value = .ok (.int n) ↔ Data.fitsWord n = true ∧ l.fraction = [] ∧ l.exponent = none ∧
      l.negative = decide (n < 0) ∧ Nat.ofDigitChars 10 l.whole 0 = n.natAbs := by
  obtain ⟨negative, whole, fraction, exponent⟩ := l
  dsimp only
  cases exponent with
  | some e =>
    -- Any exponent makes a double, be it zero.
    obtain ⟨below, digits⟩ := e
    simp only [reduceCtorEq, false_and, and_false, iff_false, value]
    cases exponentValue 0 digits with
    | ok scale => exact float?_elim_ne_int _ _ _ _
    | error left => dsimp only; split <;> simp
  | none =>
    by_cases hwhole : (gather 0 whole).2 = 0 ∧ fraction = []
    · -- Neither a fraction nor a digit too many: the literal is the word that was gathered.
      obtain ⟨hdropped, rfl⟩ := hwhole
      obtain ⟨hdigits, hfits⟩ := (gather_eq_iff (by decide)).1
        (show gather 0 whole = ((gather 0 whole).1, 0) from Prod.ext rfl hdropped)
      have hvalue : value ⟨negative, whole, [], none⟩ =
          .ok (integer negative (gather 0 whole).1) := by
        simp [value, hdropped]
      rw [hvalue, Except.ok.injEq, integer_eq_int_iff hfits, hdigits]
      simp
    · -- With a fraction, or with more digits than a word holds, the number is a double.
      have hvalue : value ⟨negative, whole, fraction, none⟩ ≠ .ok (.int n) := by
        have hcond : (fraction.isEmpty && decide ((gather 0 whole).2 = 0)) = false := by
          simpa [and_comm] using hwhole
        simp only [value, hcond, Bool.false_eq_true, if_false]
        exact float?_elim_ne_int _ _ _ _
      refine iff_of_false hvalue ?_
      rintro ⟨hfits, hfraction, -, -, hdigits⟩
      have hlt : n.natAbs < UInt64.size := by
        have hsize : UInt64.size = 0x10000000000000000 := rfl
        simp only [Data.fitsWord, Bool.and_eq_true, decide_eq_true_eq] at hfits
        omega
      exact hwhole ⟨congrArg Prod.snd ((gather_eq_iff (by decide)).2 ⟨hdigits, hlt⟩), hfraction⟩

/-- The literal that `natChars` gives for an integer of 64 bits has this integer as its value. -/
theorem value_natChars {n : Int} (hn : Data.fitsWord n = true) :
    value ⟨n < 0, natChars n.natAbs, [], none⟩ = .ok (.int n) :=
  (value_eq_int_iff _).2 ⟨hn, rfl, rfl, rfl, Nat.ofDigitChars_ten_toDigits⟩

end NumberLiteral

end HttpStub.Json
