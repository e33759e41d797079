import HttpStub.Json.Read.Document
import HttpStub.Proofs.Json.Literals
import HttpStub.Proofs.Json.Source.Basic

/-!
# The tokens of a source are read

A reader takes just the characters of a token, and what it makes of them depends on the token alone.
A string is taken as the string that is meant, and not at all if none is meant; it is passed over in
either case. A number is taken in its parts, whatever its size.
-/

namespace HttpStub.Json

/-! ## Results -/

/-- What succeeds has its result as `toOption`. -/
@[simp] theorem toOption_ok {ε α : Type} (a : α) :
    (Except.ok a : Except ε α).toOption = some a := rfl

/-- What fails has none. -/
@[simp] theorem toOption_error {ε α : Type} (e : ε) :
    (Except.error e : Except ε α).toOption = none := rfl

/-- A step that fails leaves nothing to the next one. -/
@[simp] theorem error_bind {ε α β : Type} (e : ε) (f : α → Except ε β) :
    (Except.error e >>= f) = .error e := rfl

/-- Steps succeed one after the other. -/
theorem toOption_bind {ε α β : Type} (x : Except ε α) (f : α → Except ε β) :
    (x >>= f).toOption = x.toOption.bind fun a => (f a).toOption := by
  cases x <;> rfl

/-- A reader that succeeds hands its result and what it left to the next step. -/
theorem toOption_bind_of_eq {ε α β γ : Type} {x : Except ε (α × β)} {result : Option α} {unread : β}
    (h : x.toOption = result.map (·, unread)) (f : α × β → Except ε γ) :
    (x >>= f).toOption = result.bind fun a => (f (a, unread)).toOption := by
  rw [toOption_bind, h]
  cases result <;> rfl

/-- What `Except.map` does to a result, `Option.map` does to its `toOption`. -/
theorem toOption_map {ε α β : Type} (f : α → β) (x : Except ε α) :
    (x.map f).toOption = x.toOption.map f := by
  cases x <;> rfl

/-- The fault `malformedAt` is a failure, whatever its cause. -/
@[simp] theorem toOption_malformedAt {α : Type} (cause : Cause) (cs : List Char) :
    (malformedAt cause cs : Except Fault α).toOption = none := rfl

/-- The fault `malformedBefore` is one too. -/
@[simp] theorem toOption_malformedBefore {α : Type} (cause : Cause) (cs : List Char) :
    (malformedBefore cause cs : Except Fault α).toOption = none := rfl

/-- What succeeds does so with the one result it has. -/
theorem toOption_eq_some_iff {ε α : Type} {x : Except ε α} {a : α} :
    x.toOption = some a ↔ x = .ok a := by
  cases x <;> simp

/-! ## Spaces -/

/-- Spaces are passed over by `skipSpace`. -/
@[simp] theorem skipSpace_append (sp : Spaces) (cs : List Char) :
    skipSpace (sp.chars ++ cs) = skipSpace cs := by
  rw [skipSpace, List.dropWhile_append_of_pos sp.areSpaces, skipSpace]

/-- A colon between spaces is taken by `colon`. -/
theorem colon_append (sp : Spaces) (cs : List Char) : colon (sp.chars ++ ':' :: cs) = .ok cs := by
  rw [colon, skipSpace_append, skipSpace_cons (by decide)]
  rfl

/-! ## Names -/

/-- Behind its first letter `literalTail` takes the rest of the name of `Source.null`. -/
@[simp] theorem literalTail_null (cs : List Char) :
    literalTail ['u', 'l', 'l'] ('u' :: 'l' :: 'l' :: cs) = .ok cs :=
  literalTail_append ['u', 'l', 'l'] cs

/-- The same for the name of `Source.bool true`. -/
@[simp] theorem literalTail_true (cs : List Char) :
    literalTail ['r', 'u', 'e'] ('r' :: 'u' :: 'e' :: cs) = .ok cs :=
  literalTail_append ['r', 'u', 'e'] cs

/-- The same for the name of `Source.bool false`. -/
@[simp] theorem literalTail_false (cs : List Char) :
    literalTail ['a', 'l', 's', 'e'] ('a' :: 'l' :: 's' :: 'e' :: cs) = .ok cs :=
  literalTail_append ['a', 'l', 's', 'e'] cs

/-! ## Strings -/

/-- An escape that `escape` refuses makes `stringChars` refuse the string. -/
theorem toOption_stringChars_of_error {cs : List Char} {fault : Fault}
    (h : escape cs = .error fault) : (stringChars ('\\' :: cs)).toOption = none := by
  rw [stringChars, if_neg (by decide), if_pos rfl]
  split
  · rfl
  · rename_i hok
    rw [h] at hok
    cases hok

/-- An escape by code unit, as far as its four digits tell: `escape` refuses a lone second half, and
it looks for one behind a first half. -/
theorem escape_unit_eq {a b c d : Char} {n : Nat} (h : hexValue4? a b c d = some n)
    (cs : List Char) :
    escape ('u' :: a :: b :: c :: d :: cs) =
      if isTrailing n then malformedBefore .loneSurrogate cs
      else if isLeading n then trailingEscape n cs
      else .ok (Char.ofNat n, cs) := by
  -- The letter of a code unit is no escape by letter.
  have hletter : letterEscape? 'u' = none := by decide
  simp [escape, hletter, unitEscape, hexEscape, h]

/-- Half of a pair at the end of the string, or before anything else than a code unit, is refused by
`trailingEscape`. -/
private theorem toOption_trailingEscape (n : Nat) {gs : List Glyph} (rest : List Char)
    (h : ∀ (a b c d : Char) (m : Nat) (stands : hexValue4? a b c d = some m) (others : List Glyph),
      gs = .unit a b c d m stands :: others → False) :
    (trailingEscape n (gs.flatMap Glyph.chars ++ '"' :: rest)).toOption = none := by
  cases gs with
  | nil => rfl
  | cons g gs =>
    cases g with
    | plain c isPlain => simp [Glyph.chars, trailingEscape, isPlain.2.1]
    | letter c d stands =>
      have hunit : letterEscape? 'u' = none := by decide
      -- The letter is no mark of a code unit, which has to come here.
      have hne : c ≠ 'u' := by
        rintro rfl
        exact Option.some_ne_none d (stands.symm.trans hunit)
      simp only [Glyph.chars, List.flatMap_cons, List.cons_append, List.nil_append]
      rw [trailingEscape.eq_4 _ _ _ hne]
      rfl
    | unit a b c d m stands => exact absurd rfl (h a b c d m stands gs)

/-- One character in front of those that `stringChars` reads. -/
private theorem toOption_stringChars_cons {cs unread rest : List Char} {d : Char} {gs : List Glyph}
    (h : stringChars cs = (stringChars unread).map fun r => (d :: r.1, r.2))
    (ih : (stringChars unread).toOption = (glyphsValue? gs).map (·, rest)) :
    (stringChars cs).toOption = ((glyphsValue? gs).map (d :: ·)).map (·, rest) := by
  rw [h, toOption_map, ih]
  cases glyphsValue? gs <;> rfl

/-- Glyphs are read by `stringChars` as the characters that `glyphsValue?` has for them, up to the
closing quote. -/
theorem toOption_stringChars (gs : List Glyph) (rest : List Char) :
    (stringChars (gs.flatMap Glyph.chars ++ '"' :: rest)).toOption =
      (glyphsValue? gs).map (·, rest) := by
  -- Induction along the recursion of `glyphsValue?`. Cases 5 to 7 are about the first half of a
  -- pair: its second half follows, another code unit follows, or no code unit.
  fun_induction glyphsValue? gs with
  | case1 => simp [stringChars]
  | case2 c isPlain gs ih =>
    exact toOption_stringChars_cons (stringChars_plain isPlain.1 isPlain.2.1 isPlain.2.2 _) ih
  | case3 c d stands gs ih =>
    rw [List.flatMap_cons, List.append_assoc]
    refine toOption_stringChars_cons (stringChars_escape ?_) ih
    simp [escape, stands]
  | case4 a b c d n stands gs htrailing =>
    exact toOption_stringChars_of_error ((escape_unit_eq stands _).trans (if_pos htrailing))
  | case5 a b c d n stands htrailing hleading a' b' c' d' m stands' gs hm ih =>
    rw [List.flatMap_cons, List.flatMap_cons, List.append_assoc, List.append_assoc]
    refine toOption_stringChars_cons (stringChars_escape ?_) ih
    refine ((escape_unit_eq stands _).trans (if_neg htrailing)).trans ((if_pos hleading).trans ?_)
    simp [Glyph.chars, trailingEscape, hexEscape, stands', hm]
  | case6 a b c d n stands htrailing hleading a' b' c' d' m stands' gs hm =>
    -- The code unit that follows is no second half, so the pair is refused there.
    rw [List.flatMap_cons, List.flatMap_cons, List.append_assoc, List.append_assoc]
    refine @toOption_stringChars_of_error _ (.malformed .loneSurrogate
      (gs.flatMap Glyph.chars ++ '"' :: rest) 0) ?_
    refine ((escape_unit_eq stands _).trans (if_neg htrailing)).trans ((if_pos hleading).trans ?_)
    simp [Glyph.chars, trailingEscape, hexEscape, stands', hm, malformedBefore]
  | case7 a b c d n stands gs htrailing hleading h =>
    have hrefused := toOption_trailingEscape n rest h
    have hescape := ((escape_unit_eq stands (gs.flatMap Glyph.chars ++ '"' :: rest)).trans
      (if_neg htrailing)).trans (if_pos hleading)
    -- What is refused is a fault of `escape`, whichever it is.
    cases hresult : trailingEscape n (gs.flatMap Glyph.chars ++ '"' :: rest) with
    | ok r => rw [hresult] at hrefused; cases hrefused
    | error fault => exact toOption_stringChars_of_error (hescape.trans hresult)
  | case8 a b c d n stands gs htrailing hleading ih =>
    refine toOption_stringChars_cons (stringChars_escape ?_) ih
    exact ((escape_unit_eq stands _).trans (if_neg htrailing)).trans (if_neg hleading)

/-- A string literal is read by `stringLiteral` as the string that is meant. -/
theorem toOption_stringLiteral (q : Quoted) (rest : List Char) :
    (stringLiteral (q.chars ++ rest)).toOption = q.value?.map (·, rest) := by
  have hchars : q.chars ++ rest = q.glyphs.flatMap Glyph.chars ++ '"' :: rest := by
    simp [Quoted.chars]
  rw [stringLiteral, toOption_bind, hchars, toOption_stringChars, Quoted.value?]
  cases glyphsValue? q.glyphs <;> rfl

/-- A glyph is passed over by `skipString`. -/
private theorem skipString_glyph (g : Glyph) (cs : List Char) :
    skipString (g.chars ++ cs) = skipString cs := by
  -- Both kinds of escape are passed over in the same way once `skipEscape` has taken them.
  have hescape : ∀ {unread : List Char}, skipEscape unread = .ok cs →
      skipString ('\\' :: unread) = skipString cs := by
    intro unread h
    rw [skipString, if_neg (by decide), if_pos rfl]
    split
    · rename_i hfault
      rw [h] at hfault
      cases hfault
    · rename_i hok
      rw [h] at hok
      rw [Except.ok.inj hok]
  cases g with
  | plain c isPlain =>
    obtain ⟨hquote, hslash, hcontrol⟩ := isPlain
    rw [Glyph.chars, List.singleton_append, skipString, if_neg hquote, if_neg hslash,
      if_neg (by omega)]
  | letter c d stands =>
    refine hescape ?_
    simp [skipEscape, stands]
  | unit a b c d n stands =>
    refine hescape ?_
    have hletter : letterEscape? 'u' = none := by decide
    simp [skipEscape, hletter, hexEscape, stands]
    rfl

/-- Any string literal is passed over by `skipString`, whether a string is meant or not. -/
theorem skipString_append (q : Quoted) (rest : List Char) :
    skipString (q.chars ++ rest) = .ok rest := by
  obtain ⟨gs⟩ := q
  simp only [Quoted.chars, List.append_assoc, List.singleton_append]
  induction gs with
  | nil => simp [skipString]
  | cons g gs ih => rw [List.flatMap_cons, List.append_assoc, skipString_glyph, ih]

/-! ## Numbers -/

/-- The characters of `Digits` begin with a digit, so with no sign. -/
theorem Digits.chars_cons (ds : Digits) :
    ∃ c cs, ds.chars = c :: cs ∧ c.isDigit = true ∧ c ≠ '-' ∧ c ≠ '+' := by
  obtain ⟨c, cs, hcs⟩ := List.exists_cons_of_ne_nil ds.ne_nil
  have hc : c.isDigit = true := ds.areDigits c (hcs ▸ List.mem_cons_self)
  refine ⟨c, cs, hcs, hc, ?_, ?_⟩ <;>
    · rintro rfl
      exact absurd hc (by decide)

/-- A `NumberSource` begins with a minus or a digit, so with nothing that opens anything else. -/
theorem NumberSource.chars_cons (n : NumberSource) :
    ∃ c cs, n.chars = c :: cs ∧ (c = '-' ∨ c.isDigit = true) ∧ isSpace c = false ∧
      c ≠ 'n' ∧ c ≠ 't' ∧ c ≠ 'f' ∧ c ≠ '"' ∧ c ≠ '[' ∧ c ≠ '\x7b' ∧ c ≠ ']' := by
  -- The minus is there or not, and without it the whole part comes first.
  have hfirst : ∃ c cs, n.chars = c :: cs ∧ (c = '-' ∨ c.isDigit = true) := by
    obtain ⟨d, ds, hds, hd, -⟩ := n.whole.chars_cons
    cases hneg : n.negative with
    | true =>
      simp only [chars, hneg, if_true, List.cons_append]
      exact ⟨_, _, rfl, Or.inl rfl⟩
    | false =>
      simp only [chars, hneg, hds, Bool.false_eq_true, if_false, List.nil_append, List.cons_append]
      exact ⟨_, _, rfl, Or.inr hd⟩
  obtain ⟨c, cs, hcs, hc⟩ := hfirst
  refine ⟨c, cs, hcs, hc, Bool.eq_false_iff.2 fun hspace => ?_, ?_⟩
  · simp only [isSpace, Bool.or_eq_true, decide_eq_true_eq] at hspace
    rcases hspace with ((rfl | rfl) | rfl) | rfl <;> exact absurd hc (by decide)
  · refine ⟨?_, ?_, ?_, ?_, ?_, ?_, ?_⟩ <;> rintro rfl <;> exact absurd hc (by decide)

namespace NumberLiteral

variable (atEnd : Cause)

/-- A sign is taken off by `sign`, and the first digit is not taken for one. -/
private theorem sign_chars (n : NumberSource) (rest : List Char) :
    sign (n.chars ++ rest) =
      (n.negative, n.whole.chars ++ (n.fractionChars ++ (n.exponentChars ++ rest))) := by
  obtain ⟨d, ds, hds, -, hminus, -⟩ := n.whole.chars_cons
  simp only [NumberSource.chars, List.append_assoc]
  cases n.negative with
  | true => rfl
  | false =>
    rw [if_neg Bool.false_ne_true, List.nil_append, hds, List.cons_append, sign, if_neg hminus]

/-- Behind the fraction stands an exponent mark, or what delimits the number. -/
private theorem head?_exponentChars (n : NumberSource) {rest : List Char} (hrest : Delimited rest) :
    ∀ c ∈ (n.exponentChars ++ rest).head?, c.isDigit = false ∧ c ≠ '.' := by
  intro c hc
  unfold NumberSource.exponentChars at hc
  split at hc
  · exact ⟨(hrest c hc).1, (hrest c hc).2.1⟩
  · rename_i e _
    cases hcapital : e.capital <;>
      · simp only [ExponentSource.chars, hcapital] at hc
        cases hc
        decide

/-- Behind the whole part stands no further digit. -/
private theorem head?_fractionChars (n : NumberSource) {rest : List Char} (hrest : Delimited rest) :
    ∀ c ∈ (n.fractionChars ++ (n.exponentChars ++ rest)).head?, c.isDigit = false := by
  intro c hc
  unfold NumberSource.fractionChars at hc
  split at hc
  · exact (head?_exponentChars n hrest c hc).1
  · cases hc
    decide

/-- The digits of the whole part are taken by `readWhole`, all of them and none behind them. -/
private theorem readWhole_chars (n : NumberSource) {rest : List Char}
    (hrest : ∀ c ∈ rest.head?, c.isDigit = false) :
    readWhole atEnd (n.whole.chars ++ rest) = .ok (n.whole.chars, rest) := by
  obtain ⟨d, ds, hds, hd, -⟩ := n.whole.chars_cons
  have hdigits : ∀ c ∈ d :: ds, c.isDigit = true := hds ▸ n.whole.areDigits
  rw [hds, List.cons_append]
  simp only [readWhole]
  by_cases hzero : d = '0'
  · -- A zero is taken alone, and nothing stands behind it.
    subst hzero
    obtain rfl := n.eq_nil_of_zero ds hds
    cases rest with
    | nil => rfl
    | cons c rest => simp [hrest c rfl]
  · obtain ⟨htake, hdrop⟩ :=
      span_isDigit (fun c hc => hdigits c (List.mem_cons_of_mem _ hc)) hrest
    rw [if_neg hzero, if_pos hd, htake, hdrop]

/-- The point and its digits are taken by `readFraction`, or nothing if there is no fraction. -/
private theorem readFraction_chars (n : NumberSource) {rest : List Char}
    (hrest : ∀ c ∈ rest.head?, c.isDigit = false ∧ c ≠ '.') :
    readFraction atEnd (n.fractionChars ++ rest) = .ok (n.literal.fraction, rest) := by
  unfold NumberSource.fractionChars NumberSource.literal
  cases n.fraction with
  | none =>
    cases rest with
    | nil => rfl
    | cons c rest => simp [readFraction, (hrest c rfl).2]
  | some ds =>
    obtain ⟨d, tail, htail, hd, -⟩ := ds.chars_cons
    -- All digits of the fraction are taken, since what stands behind them is none.
    obtain ⟨htake, hdrop⟩ := span_isDigit ds.areDigits fun c hc => (hrest c hc).1
    rw [htail, List.cons_append] at htake hdrop
    simp [readFraction, htail, hd, htake, hdrop]

/-- The sign of an exponent is taken off by `exponentSign`, and the first digit is not taken for
one. -/
private theorem exponentSign_chars (e : ExponentSource) (rest : List Char) :
    exponentSign (e.signChars ++ (e.digits.chars ++ rest)) =
      (e.sign == some true, e.digits.chars ++ rest) := by
  obtain ⟨d, ds, hds, -, hminus, hplus⟩ := e.digits.chars_cons
  unfold ExponentSource.signChars
  rcases e.sign with _ | _ | _
  · rw [List.nil_append, hds, List.cons_append, exponentSign, if_neg hminus, if_neg hplus]
    rfl
  · rfl
  · rfl

/-- The exponent is taken by `readExponent`, or nothing if there is none. -/
private theorem readExponent_chars (n : NumberSource) {rest : List Char} (hrest : Delimited rest) :
    readExponent atEnd (n.exponentChars ++ rest) = .ok (n.literal.exponent, rest) := by
  unfold NumberSource.exponentChars NumberSource.literal
  cases n.exponent with
  | none => exact readExponent_of_delimited atEnd hrest
  | some e =>
    obtain ⟨d, ds, hds, hd, -⟩ := e.digits.chars_cons
    obtain ⟨htake, hdrop⟩ := span_isDigit e.digits.areDigits fun c hc => (hrest c hc).1
    have hsign := exponentSign_chars e rest
    simp only [ExponentSource.chars, List.cons_append, List.append_assoc, readExponent, hsign]
    -- Both marks of an exponent are known.
    rw [if_pos (by cases e.capital <;> rfl)]
    rw [hds, List.cons_append] at htake hdrop ⊢
    simp only [hd, if_true, htake, hdrop]
    rw [← hds]
    rfl

/-- A `NumberSource` is read by `NumberLiteral.read` in its parts, if what stands behind it is
`Delimited`. -/
theorem read_chars (n : NumberSource) {rest : List Char} (hrest : Delimited rest) :
    read atEnd (n.chars ++ rest) = .ok (n.literal, rest) := by
  have hwhole := readWhole_chars atEnd n (head?_fractionChars n hrest)
  have hfraction := readFraction_chars atEnd n (head?_exponentChars n hrest)
  simp only [read, sign_chars, hwhole, ok_bind, hfraction, readExponent_chars atEnd n hrest]
  rfl

end NumberLiteral

/-- The number of a source, if it is in the range of `Number`. -/
def NumberSource.value? (n : NumberSource) : Option Number :=
  n.literal.value.toOption

/-- A number is read by `numberLiteral` as its value. -/
theorem toOption_numberLiteral (n : NumberSource) {rest : List Char} (hrest : Delimited rest) :
    (numberLiteral (n.chars ++ rest)).toOption = n.value?.map (·, rest) := by
  simp only [numberLiteral, NumberLiteral.read_chars _ n hrest, ok_bind, NumberSource.value?]
  cases n.literal.value <;> rfl

/-- A number is passed over by `skipNumber`, even one that is out of range. -/
theorem skipNumber_append (n : NumberSource) {rest : List Char} (hrest : Delimited rest) :
    skipNumber (n.chars ++ rest) = .ok rest := by
  rw [skipNumber, NumberLiteral.read_chars _ n hrest]
  rfl

end HttpStub.Json
