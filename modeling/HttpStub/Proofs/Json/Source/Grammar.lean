import HttpStub.Proofs.Steps
import HttpStub.Proofs.Json.Source.Reading

/-!
# What is read is a source

Where a reader succeeds, what it has taken off the text is a source with spaces in front of it. This
is shown for tokens first, and for arrays and objects from what holds of their items and members. So
a text that is read as a whole is one of the grammar.
-/

namespace HttpStub.Json

variable {α σ : Type}

/-! ## Spaces and names -/

/-- Spaces behind spaces, which are `Spaces` again. -/
def Spaces.append (sp sp' : Spaces) : Spaces where
  chars := sp.chars ++ sp'.chars
  areSpaces c hc := (List.mem_append.1 hc).elim (sp.areSpaces c) (sp'.areSpaces c)

/-- What `skipSpace` passes over are `Spaces`. -/
theorem exists_spaces (cs : List Char) : ∃ sp : Spaces, cs = sp.chars ++ skipSpace cs :=
  ⟨⟨cs.takeWhile isSpace, List.all_eq_true.1 List.all_takeWhile⟩,
    List.takeWhile_append_dropWhile.symm⟩

/-- What `literalTail` takes off is the name itself. -/
theorem eq_append_of_literalTail {name cs rest : List Char} (h : literalTail name cs = .ok rest) :
    cs = name ++ rest := by
  -- Induction on the name; `literalTail` compares it with the text character by character.
  induction name generalizing cs with
  | nil => exact Except.ok.inj h
  | cons e name ih =>
    cases cs with
    | nil => cases h
    | cons c cs =>
      rw [literalTail] at h
      split at h
      · rename_i hc
        rw [hc, ih h]
        rfl
      · cases h

/-- A name is read by its first character and by `literalTail`, so a source that is this name has
been taken. -/
theorem exists_of_name {c : Char} {name cs rest : List Char} {a b : α} (s : Source)
    (hs : s.chars = c :: name)
    (h : (literalTail name cs >>= fun unread => pure (a, unread)) = .ok (b, rest)) :
    ∃ s : Source, c :: cs = s.chars ++ rest := by
  obtain ⟨unread, htail, h⟩ := bind_eq_ok h
  obtain ⟨-, rfl⟩ := Prod.mk.inj (Except.ok.inj h)
  exact ⟨s, by rw [hs, eq_append_of_literalTail htail, List.cons_append]⟩

/-- Where `colon` succeeds, a colon stands behind spaces. -/
theorem exists_of_colon {cs rest : List Char} (h : colon cs = .ok rest) :
    ∃ sp : Spaces, cs = sp.chars ++ ':' :: rest := by
  obtain ⟨sp, hsp⟩ := exists_spaces cs
  refine ⟨sp, hsp.trans ?_⟩
  rw [colon] at h
  split at h
  · cases h
  · rename_i c cs' hcs
    split at h
    · rename_i hc
      rw [hcs, hc, Except.ok.inj h]
    · cases h

/-! ## Strings -/

/-- The four characters that `hexEscape` takes are hexadecimal digits of its value. -/
theorem eq_of_hexEscape {cs rest : List Char} {n : Nat} (h : hexEscape cs = .ok (n, rest)) :
    ∃ a b c d, hexValue4? a b c d = some n ∧ cs = a :: b :: c :: d :: rest := by
  unfold hexEscape at h
  split at h
  · rename_i a b c d cs'
    split at h
    · rename_i m hm
      cases h
      exact ⟨a, b, c, d, hm, rfl⟩
    · cases h
  · cases h

/-- The second half of a pair, which `trailingEscape` takes, is an escape by code unit. -/
private theorem exists_of_trailingEscape {n : Nat} {cs rest : List Char} {e : Char}
    (h : trailingEscape n cs = .ok (e, rest)) : ∃ g : Glyph, cs = g.chars ++ rest := by
  unfold trailingEscape at h
  split at h <;> try cases h
  rename_i cs'
  -- A `u` behind the backslash: what is left to see is whether four digits follow.
  split at h
  · cases h
  · rename_i m rest' hhex
    obtain ⟨a, b, c, d, hm, rfl⟩ := eq_of_hexEscape hhex
    split at h
    · obtain ⟨-, rfl⟩ := Prod.mk.inj (Except.ok.inj h)
      exact ⟨.unit a b c d m hm, rfl⟩
    · cases h

/-- What `escape` takes behind a backslash is one `Glyph`, or two of them for a surrogate pair. -/
private theorem exists_of_escape {cs rest : List Char} {e : Char} (h : escape cs = .ok (e, rest)) :
    ∃ gs : List Glyph, '\\' :: cs = gs.flatMap Glyph.chars ++ rest := by
  unfold escape at h
  -- The branches of `escape`: a letter, a code unit, and anything else, which is refused.
  split at h
  · cases h
  · rename_i c cs'
    split at h
    · rename_i d hd
      obtain ⟨rfl, rfl⟩ := Prod.mk.inj (Except.ok.inj h)
      exact ⟨[.letter c d hd], rfl⟩
    · split at h
      · rename_i hc
        unfold unitEscape at h
        split at h
        · cases h
        · rename_i n rest' hhex
          obtain ⟨a, b, c, d, hn, rfl⟩ := eq_of_hexEscape hhex
          split at h
          · cases h
          · split at h
            · -- The first half of a pair, so the second one stands behind it.
              obtain ⟨g, hg⟩ := exists_of_trailingEscape h
              exact ⟨[.unit a b c d n hn, g], by simp [Glyph.chars, hg, hc]⟩
            · obtain ⟨-, rfl⟩ := Prod.mk.inj (Except.ok.inj h)
              exact ⟨[.unit a b c d n hn], by simp [Glyph.chars, hc]⟩
      · cases h

/-- What `stringChars` takes, the closing quote included, is a `Quoted`. -/
theorem exists_of_stringChars {cs rest ds : List Char} (h : stringChars cs = .ok (ds, rest)) :
    ∃ q : Quoted, cs = q.chars ++ rest := by
  -- Induction along the recursion of `stringChars`. Cases 1, 3 and 5 are its failures, case 4 is an
  -- escape, and case 6 a character that stands for itself.
  fun_induction stringChars cs generalizing ds rest with
  | case1 => cases h
  | case2 unread =>
    obtain ⟨-, rfl⟩ := Prod.mk.inj (Except.ok.inj h)
    exact ⟨⟨[]⟩, rfl⟩
  | case3 => cases h
  | case4 cs d unread hescape hquote ih =>
    obtain ⟨⟨ds, unread'⟩, hchars, h⟩ := bind_eq_ok h
    obtain ⟨gs, hgs⟩ := exists_of_escape hescape
    obtain ⟨q, hq⟩ := ih hchars
    obtain ⟨-, rfl⟩ := Prod.mk.inj (Except.ok.inj h)
    exact ⟨⟨gs ++ q.glyphs⟩, by simp [hgs, hq, Quoted.chars]⟩
  | case5 => cases h
  | case6 c cs hquote hslash hcontrol ih =>
    obtain ⟨⟨ds, unread'⟩, hchars, h⟩ := bind_eq_ok h
    obtain ⟨q, hq⟩ := ih hchars
    obtain ⟨-, rfl⟩ := Prod.mk.inj (Except.ok.inj h)
    exact ⟨⟨.plain c ⟨hquote, hslash, Nat.le_of_not_lt hcontrol⟩ :: q.glyphs⟩,
      by simp [hq, Quoted.chars, Glyph.chars]⟩

/-- What `stringLiteral` takes behind the opening quote is a `Quoted`. -/
theorem exists_of_stringLiteral {cs rest : List Char} {s : String}
    (h : stringLiteral cs = .ok (s, rest)) : ∃ q : Quoted, cs = q.chars ++ rest := by
  obtain ⟨⟨ds, unread⟩, hchars, h⟩ := bind_eq_ok h
  cases h
  exact exists_of_stringChars hchars

/-- What `skipEscape` passes over behind a backslash is one `Glyph`; it looks for no second half of
a pair. -/
private theorem exists_of_skipEscape {cs rest : List Char} (h : skipEscape cs = .ok rest) :
    ∃ g : Glyph, '\\' :: cs = g.chars ++ rest := by
  unfold skipEscape at h
  split at h
  · cases h
  · rename_i c cs'
    split at h
    · rename_i hsome
      obtain ⟨d, hd⟩ := Option.isSome_iff_exists.1 hsome
      rw [Except.ok.inj h]
      exact ⟨.letter c d hd, rfl⟩
    · split at h
      · rename_i hc
        cases hhex : hexEscape cs' with
        | error fault => rw [hhex] at h; cases h
        | ok r =>
          rw [hhex] at h
          obtain ⟨a, b, c, d, hn, rfl⟩ := eq_of_hexEscape hhex
          rw [← Except.ok.inj h]
          exact ⟨.unit a b c d r.1 hn, by simp [Glyph.chars, hc]⟩
      · cases h

/-- What `skipString` passes over behind the opening quote is a `Quoted`. -/
theorem exists_of_skipString {cs rest : List Char} (h : skipString cs = .ok rest) :
    ∃ q : Quoted, cs = q.chars ++ rest := by
  -- The same cases as for `stringChars`, but nothing is gathered.
  fun_induction skipString cs with
  | case1 => cases h
  | case2 unread =>
    rw [Except.ok.inj h]
    exact ⟨⟨[]⟩, rfl⟩
  | case3 => cases h
  | case4 cs unread hescape hquote ih =>
    obtain ⟨g, hg⟩ := exists_of_skipEscape hescape
    obtain ⟨q, hq⟩ := ih h
    exact ⟨⟨g :: q.glyphs⟩, by simp [hg, hq, Quoted.chars]⟩
  | case5 => cases h
  | case6 c cs hquote hslash hcontrol ih =>
    obtain ⟨q, hq⟩ := ih h
    exact ⟨⟨.plain c ⟨hquote, hslash, Nat.le_of_not_lt hcontrol⟩ :: q.glyphs⟩,
      by simp [hq, Quoted.chars, Glyph.chars]⟩

/-! ## Numbers -/

/-- One digit or more, taken as far as digits go, are `Digits`. -/
private theorem exists_digits {c : Char} (hc : c.isDigit = true) (cs : List Char) :
    ∃ ds : Digits, ds.chars = c :: cs.takeWhile Char.isDigit ∧
      c :: cs = ds.chars ++ (c :: cs).dropWhile Char.isDigit := by
  have hdigits : (c :: cs).takeWhile Char.isDigit = c :: cs.takeWhile Char.isDigit := by simp [hc]
  refine ⟨⟨(c :: cs).takeWhile Char.isDigit, by simp [hdigits],
    List.all_eq_true.1 List.all_takeWhile⟩, hdigits, List.takeWhile_append_dropWhile.symm⟩

namespace NumberLiteral

variable {atEnd : Cause} {cs rest ds : List Char}

/-- A minus that `sign` takes off stood in front of what it leaves. -/
private theorem eq_of_sign (cs : List Char) :
    cs = (if (sign cs).1 then ['-'] else []) ++ (sign cs).2 := by
  unfold sign
  split
  · rfl
  · split
    · rename_i hc
      rw [hc]
      rfl
    · rfl

/-- The reader `noDigit` only ever fails. -/
private theorem noDigit_ne_ok {a : α} : noDigit atEnd cs ≠ .ok a := by
  cases cs <;> exact fun h => by cases h

/-- What `readWhole` takes are `Digits`, and a zero in front stands alone. -/
private theorem exists_of_readWhole (h : readWhole atEnd cs = .ok (ds, rest)) :
    ∃ whole : Digits, (∀ ds, whole.chars = '0' :: ds → ds = []) ∧ cs = whole.chars ++ rest := by
  -- A zero is taken alone, so it has to be known that one zero is `Digits`.
  have hzero : ∃ whole : Digits, whole.chars = ['0'] :=
    ⟨⟨['0'], by simp, fun c hc => List.mem_singleton.1 hc ▸ rfl⟩, rfl⟩
  unfold readWhole at h
  split at h
  · cases h
  · rename_i c cs'
    split at h
    · rename_i hc
      obtain ⟨whole, hwhole⟩ := hzero
      have hrest : cs' = rest := by
        split at h
        · split at h <;> cases h
          rfl
        · cases h
          rfl
      exact ⟨whole, by simp [hwhole], by simp [hwhole, hc, hrest]⟩
    · rename_i hne
      split at h
      · rename_i hc
        obtain ⟨whole, hchars, hcs⟩ := exists_digits hc cs'
        obtain ⟨-, rfl⟩ := Prod.mk.inj (Except.ok.inj h)
        -- No zero stands in front here, so the condition on zeros holds of itself.
        refine ⟨whole, fun ds hds => ?_, by simpa [hc] using hcs⟩
        rw [hchars] at hds
        exact absurd (List.cons.inj hds).1 hne
      · exact absurd h noDigit_ne_ok

/-- What `readFraction` takes is a point with `Digits` behind it, or nothing. -/
private theorem exists_of_readFraction (h : readFraction atEnd cs = .ok (ds, rest)) :
    ∃ fraction : Option Digits, cs = (match fraction with
      | none => []
      | some ds => '.' :: ds.chars) ++ rest := by
  unfold readFraction at h
  split at h
  · cases h
    exact ⟨none, rfl⟩
  · split at h
    · rename_i hc
      split at h
      · split at h
        · rename_i d cs' hd
          obtain ⟨fraction, -, hcs⟩ := exists_digits hd cs'
          obtain ⟨-, rfl⟩ := Prod.mk.inj (Except.ok.inj h)
          exact ⟨some fraction, hc ▸ congrArg ('.' :: ·) hcs⟩
        · exact absurd h noDigit_ne_ok
      · exact absurd h noDigit_ne_ok
    · cases h
      exact ⟨none, rfl⟩

/-- A sign that `exponentSign` takes off stood in front of what it leaves. -/
private theorem exists_of_exponentSign (cs : List Char) :
    ∃ sign, ∀ capital digits,
      cs = (ExponentSource.mk capital sign digits).signChars ++ (exponentSign cs).2 := by
  unfold exponentSign
  split
  · exact ⟨none, fun _ _ => rfl⟩
  · split
    · rename_i hc
      exact ⟨some true, fun _ _ => hc ▸ rfl⟩
    · split
      · rename_i hc
        exact ⟨some false, fun _ _ => hc ▸ rfl⟩
      · exact ⟨none, fun _ _ => rfl⟩

/-- What `readExponent` takes is an `ExponentSource`, or nothing. -/
private theorem exists_of_readExponent {exponent : Option (Bool × List Char)}
    (h : readExponent atEnd cs = .ok (exponent, rest)) :
    ∃ exponent : Option ExponentSource, cs = (match exponent with
      | none => []
      | some e => e.chars) ++ rest := by
  unfold readExponent at h
  split at h
  · cases h
    exact ⟨none, rfl⟩
  · rename_i c cs'
    split at h
    · rename_i hmark
      obtain ⟨sign, hsign⟩ := exists_of_exponentSign cs'
      split at h
      rename_i negative digits hdigits
      split at h
      · rename_i d tail
        split at h
        · rename_i hd
          obtain ⟨ds, -, hds⟩ := exists_digits hd tail
          obtain ⟨-, rfl⟩ := Prod.mk.inj (Except.ok.inj h)
          rw [hdigits, hds] at hsign
          -- The mark is an `e` or an `E`, and the source remembers which.
          simp only [Bool.or_eq_true, decide_eq_true_eq] at hmark
          rcases hmark with rfl | rfl
          · exact ⟨some ⟨false, sign, ds⟩, by simp [ExponentSource.chars, hsign false ds]⟩
          · exact ⟨some ⟨true, sign, ds⟩, by simp [ExponentSource.chars, hsign true ds]⟩
        · exact absurd h noDigit_ne_ok
      · exact absurd h noDigit_ne_ok
    · cases h
      exact ⟨none, rfl⟩

/-- What `NumberLiteral.read` takes is a `NumberSource`: its four parts stand one behind the other.
-/
theorem exists_of_read {literal : NumberLiteral} (h : read atEnd cs = .ok (literal, rest)) :
    ∃ n : NumberSource, cs = n.chars ++ rest := by
  have hsign := eq_of_sign cs
  simp only [read] at h
  -- The four readers succeed one after the other, each on what the one before it has left.
  obtain ⟨⟨digits, cs₁⟩, hwhole, h⟩ := bind_eq_ok h
  obtain ⟨⟨fraction, cs₂⟩, hfraction, h⟩ := bind_eq_ok h
  obtain ⟨⟨exponent, cs₃⟩, hexponent, h⟩ := bind_eq_ok h
  obtain ⟨-, rfl⟩ := Prod.mk.inj (Except.ok.inj h)
  obtain ⟨whole, hzero, hwhole⟩ := exists_of_readWhole hwhole
  obtain ⟨fraction, hfraction⟩ := exists_of_readFraction hfraction
  obtain ⟨exponent, hexponent⟩ := exists_of_readExponent hexponent
  dsimp only at hfraction hexponent
  refine ⟨⟨(sign cs).1, whole, hzero, fraction, exponent⟩, ?_⟩
  simp only [NumberSource.chars, List.append_assoc]
  rw [hwhole, hfraction, hexponent] at hsign
  exact hsign

end NumberLiteral

/-- What `numberLiteral` takes is a `NumberSource`. -/
theorem exists_of_numberLiteral {cs rest : List Char} {n : Number}
    (h : numberLiteral cs = .ok (n, rest)) : ∃ n : NumberSource, cs = n.chars ++ rest := by
  obtain ⟨⟨literal, unread⟩, hread, h⟩ := bind_eq_ok h
  obtain ⟨n, hn⟩ := NumberLiteral.exists_of_read hread
  cases hvalue : literal.value with
  | error left => simp only [hvalue] at h; cases h
  | ok value =>
    simp only [hvalue] at h
    obtain ⟨-, rfl⟩ := Prod.mk.inj (Except.ok.inj h)
    exact ⟨n, hn⟩

/-- What `skipNumber` passes over is a `NumberSource`. -/
theorem exists_of_skipNumber {cs rest : List Char} (h : skipNumber cs = .ok rest) :
    ∃ n : NumberSource, cs = n.chars ++ rest := by
  rw [skipNumber] at h
  cases hread : NumberLiteral.read .invalidNumber cs with
  | error fault => rw [hread] at h; cases h
  | ok r =>
    rw [hread] at h
    obtain rfl := Except.ok.inj h
    exact NumberLiteral.exists_of_read hread

/-! ## Arrays and objects -/

/-- Where the reader succeeds, it has taken a source and the spaces in front of it. -/
def Reader.Grammatical (read : Reader α) : Prop :=
  ∀ {cs a rest}, read cs = .ok (a, rest) →
    ∃ (sp : Spaces) (s : Source), cs = sp.chars ++ (s.chars ++ rest)

section Items

variable {strict : Bool} {read : Reader α}

/-- What `moreItems` takes up to the closing bracket are items, if its reader of items is
`Grammatical`. -/
private theorem exists_of_moreItems (hread : read.Grammatical) {rounds : Nat} {cs rest : List Char}
    {as : List α} (h : moreItems strict read rounds cs = .ok (as, rest)) :
    ∃ (sp : Spaces) (items : List (Padded Source)) (last : Spaces),
      cs = sp.chars ++ (Source.moreItemsChars items last ++ rest) := by
  -- Induction on the rounds. Each round reads a comma and one item, or the closing bracket.
  induction rounds generalizing cs as with
  | zero => cases h
  | succ rounds ih =>
    obtain ⟨sp, hsp⟩ := exists_spaces cs
    rw [moreItems] at h
    split at h
    · cases h
    · rename_i c cs' hcs
      rw [hcs] at hsp
      split at h
      · rename_i hc
        obtain ⟨-, rfl⟩ := Prod.mk.inj (Except.ok.inj h)
        exact ⟨sp, [], .empty, by simp [hsp, hc, Source.moreItemsChars]⟩
      · split at h
        · rename_i hc
          dsimp only at h
          split at h
          · cases h
          · obtain ⟨⟨a, unread⟩, hitem, h⟩ := bind_eq_ok h
            obtain ⟨⟨as, unread'⟩, hmore, h⟩ := bind_eq_ok h
            obtain ⟨-, rfl⟩ := Prod.mk.inj (Except.ok.inj h)
            -- The spaces behind the comma and those that the item begins with are taken together.
            obtain ⟨front, hfront⟩ := exists_spaces cs'
            obtain ⟨before, s, hs⟩ := hread hitem
            obtain ⟨after, items, last, hitems⟩ := ih hmore
            refine ⟨sp, ⟨front.append before, s, after⟩ :: items, last, ?_⟩
            dsimp only at hitems
            rw [hsp, hc, hfront, hs, hitems]
            simp [Source.moreItemsChars, Spaces.append]
        · cases h

/-- What `items` takes behind the opening bracket is the inside of an array and the bracket that
closes it. -/
theorem exists_of_items (hread : read.Grammatical) {cs rest : List Char} {as : List α}
    (h : items strict read cs = .ok (as, rest)) :
    ∃ (items : List (Padded Source)) (last : Spaces),
      cs = Source.itemsChars items last ++ rest := by
  obtain ⟨sp, hsp⟩ := exists_spaces cs
  rw [Json.items] at h
  split at h
  · cases h
  · rename_i c cs' hcs
    rw [hcs] at hsp
    split at h
    · rename_i hc
      obtain ⟨-, rfl⟩ := Prod.mk.inj (Except.ok.inj h)
      exact ⟨[], sp, by simp [hsp, hc, Source.itemsChars]⟩
    · obtain ⟨⟨a, unread⟩, hitem, h⟩ := bind_eq_ok h
      obtain ⟨⟨as, unread'⟩, hmore, h⟩ := bind_eq_ok h
      obtain ⟨-, rfl⟩ := Prod.mk.inj (Except.ok.inj h)
      obtain ⟨before, s, hs⟩ := hread hitem
      obtain ⟨after, items, last, hitems⟩ := exists_of_moreItems hread hmore
      refine ⟨⟨sp.append before, s, after⟩ :: items, last, ?_⟩
      rw [hsp, hs, hitems]
      simp [Source.itemsChars, Spaces.append]

end Items

/-- Where the reader succeeds behind the quote that opens a key, it has taken a member. -/
def GrammaticalMember (read : σ → Reader σ) : Prop :=
  ∀ {gathered cs gathered' rest}, read gathered cs = .ok (gathered', rest) →
    ∃ m : Source.Member, cs = Source.memberChars m ++ rest

/-- A key, a colon and a source are a `Source.Member`. -/
theorem exists_member {cs₁ cs₂ cs₃ rest : List Char} {q : Quoted} {after before : Spaces}
    {s : Source} (hkey : cs₁ = q.chars ++ cs₂) (hcolon : cs₂ = after.chars ++ ':' :: cs₃)
    (hvalue : cs₃ = before.chars ++ (s.chars ++ rest)) :
    ∃ m : Source.Member, cs₁ = Source.memberChars m ++ rest :=
  ⟨⟨⟨.empty, q, after⟩, ⟨before, s, .empty⟩⟩,
    by rw [hkey, hcolon, hvalue]; simp [Source.memberChars]⟩

section Members

variable {strict : Bool} {read : σ → Reader σ}

/-- What `moreMembers` takes up to the closing brace are members, if `GrammaticalMember` holds of
its reader of members. -/
private theorem exists_of_moreMembers (hread : GrammaticalMember read) {rounds : Nat}
    {cs rest : List Char} {gathered gathered' : σ}
    (h : moreMembers strict read rounds gathered cs = .ok (gathered', rest)) :
    ∃ (sp : Spaces) (members : List Source.Member) (last : Spaces),
      cs = sp.chars ++ (Source.moreMembersChars members last ++ rest) := by
  -- Induction on the rounds, as for `moreItems`; here a quote has to follow the comma.
  induction rounds generalizing cs gathered with
  | zero => cases h
  | succ rounds ih =>
    obtain ⟨sp, hsp⟩ := exists_spaces cs
    rw [moreMembers] at h
    split at h
    · cases h
    · rename_i c cs' hcs
      rw [hcs] at hsp
      split at h
      · rename_i hc
        obtain ⟨-, rfl⟩ := Prod.mk.inj (Except.ok.inj h)
        exact ⟨sp, [], .empty, by simp [hsp, hc, Source.moreMembersChars]⟩
      · split at h
        · rename_i hc
          obtain ⟨front, hfront⟩ := exists_spaces cs'
          split at h
          · cases h
          · rename_i d cs'' hcs'
            rw [hcs'] at hfront
            split at h
            · rename_i hd
              obtain ⟨⟨gathered, unread⟩, hmember, h⟩ := bind_eq_ok h
              obtain ⟨⟨⟨keyBefore, key, keyAfter⟩, ⟨before, s, valueAfter⟩⟩, hm⟩ := hread hmember
              obtain ⟨after, members, last, hmembers⟩ := ih h
              refine ⟨sp, ⟨⟨front, key, keyAfter⟩, ⟨before, s, after⟩⟩ :: members, last, ?_⟩
              rw [hsp, hc, hfront, hd, hm, hmembers]
              simp [Source.moreMembersChars, Source.memberChars]
            · split at h <;> cases h
        · cases h

/-- What `members` takes behind the opening brace is the inside of an object and the brace that
closes it. -/
theorem exists_of_members (hread : GrammaticalMember read) {cs rest : List Char}
    {start gathered : σ} (h : members strict read start cs = .ok (gathered, rest)) :
    ∃ (members : List Source.Member) (last : Spaces),
      cs = Source.membersChars members last ++ rest := by
  obtain ⟨sp, hsp⟩ := exists_spaces cs
  rw [Json.members] at h
  split at h
  · cases h
  · rename_i c cs' hcs
    rw [hcs] at hsp
    split at h
    · rename_i hc
      obtain ⟨-, rfl⟩ := Prod.mk.inj (Except.ok.inj h)
      exact ⟨[], sp, by simp [hsp, hc, Source.membersChars]⟩
    · split at h
      · rename_i hc
        obtain ⟨⟨gathered, unread⟩, hmember, h⟩ := bind_eq_ok h
        obtain ⟨⟨⟨keyBefore, key, keyAfter⟩, ⟨before, s, valueAfter⟩⟩, hm⟩ := hread hmember
        obtain ⟨after, members, last, hmembers⟩ := exists_of_moreMembers hread h
        refine ⟨⟨⟨sp, key, keyAfter⟩, ⟨before, s, after⟩⟩ :: members, last, ?_⟩
        rw [hsp, hc, hm, hmembers]
        simp [Source.membersChars, Source.memberChars]
      · cases h

end Members

/-! ## Documents -/

/-- A reader that looks at the first character behind the spaces is `Grammatical` if it takes a
source from this character on. -/
theorem Reader.grammatical_of_token {read : Reader α}
    (h : ∀ {cs c cs' a rest}, skipSpace cs = c :: cs' → read cs = .ok (a, rest) →
      ∃ s : Source, c :: cs' = s.chars ++ rest)
    (hend : ∀ {cs a rest}, skipSpace cs = [] → read cs ≠ .ok (a, rest)) : read.Grammatical := by
  intro cs a rest hread
  obtain ⟨sp, hsp⟩ := exists_spaces cs
  cases hcs : skipSpace cs with
  | nil => exact absurd hread (hend hcs)
  | cons c cs' =>
    obtain ⟨s, hs⟩ := h hcs hread
    exact ⟨sp, s, by rw [hsp, hcs, hs]⟩

/-- A reader `valueWith nested` is `Grammatical` if `nested` takes a source wherever an array or
object begins. -/
private theorem grammatical_valueWith {nested : Reader Json}
    (h : ∀ {c cs j rest}, nested (c :: cs) = .ok (j, rest) → c = '[' ∨ c = '\x7b' →
      ∃ s : Source, c :: cs = s.chars ++ rest) : (valueWith nested).Grammatical := by
  refine Reader.grammatical_of_token (fun {cs c cs' j rest} hcs hread => ?_) fun hcs hread => ?_
  · simp only [valueWith, hcs] at hread
    -- The branches of `valueWith`, in their order: the three names, numbers, strings, and what
    -- `nested` reads.
    split at hread
    · rename_i hc
      exact hc ▸ exists_of_name .null rfl hread
    split at hread
    · rename_i hc
      exact hc ▸ exists_of_name (.bool true) rfl hread
    split at hread
    · rename_i hc
      exact hc ▸ exists_of_name (.bool false) rfl hread
    split at hread
    · obtain ⟨⟨n, unread⟩, hnumber, hread⟩ := bind_eq_ok hread
      obtain ⟨-, rfl⟩ := Prod.mk.inj (Except.ok.inj hread)
      obtain ⟨n, hn⟩ := exists_of_numberLiteral hnumber
      exact ⟨.number n, hn⟩
    split at hread
    · rename_i hc
      obtain ⟨⟨s, unread⟩, hstring, hread⟩ := bind_eq_ok hread
      obtain ⟨-, rfl⟩ := Prod.mk.inj (Except.ok.inj hread)
      obtain ⟨q, hq⟩ := exists_of_stringLiteral hstring
      exact ⟨.string q, by rw [hc, hq]; rfl⟩
    split at hread
    · rename_i hc
      exact h hread (by simpa using hc)
    · cases hread
  · simp only [valueWith, hcs] at hread
    cases hread

/-- A reader `memberWith value` takes a member if `value` takes a source. -/
private theorem grammaticalMember_memberWith {value : Reader Json} (h : value.Grammatical) :
    GrammaticalMember (memberWith value) := by
  intro gathered cs gathered' rest hread
  obtain ⟨⟨key, cs₁⟩, hkey, hread⟩ := bind_eq_ok hread
  obtain ⟨cs₂, hcolon, hread⟩ := bind_eq_ok hread
  obtain ⟨⟨j, cs₃⟩, hvalue, hread⟩ := bind_eq_ok hread
  obtain ⟨-, rfl⟩ := Prod.mk.inj (Except.ok.inj hread)
  obtain ⟨q, hq⟩ := exists_of_stringLiteral hkey
  obtain ⟨after, hafter⟩ := exists_of_colon hcolon
  obtain ⟨before, s, hs⟩ := h hvalue
  exact exists_member hq hafter hs

/-- What `document` reads is a source, for every depth that it allows. -/
theorem grammatical_document (depth : Nat) : (document depth).Grammatical := by
  induction depth with
  | zero =>
    -- At depth zero arrays and objects are refused, so `nested` takes nothing.
    exact grammatical_valueWith fun hread _ => by cases hread
  | succ depth ih =>
    refine grammatical_valueWith fun {c cs j rest} hread hc => ?_
    simp only [nestedWith] at hread
    split at hread
    · rename_i hc
      obtain ⟨⟨js, unread⟩, hitems, hread⟩ := bind_eq_ok hread
      obtain ⟨-, rfl⟩ := Prod.mk.inj (Except.ok.inj hread)
      obtain ⟨items, last, hitems⟩ := exists_of_items ih hitems
      exact ⟨.array items last, by rw [hc, hitems]; rfl⟩
    · rename_i hne
      obtain ⟨⟨ms, unread⟩, hmembers, hread⟩ := bind_eq_ok hread
      obtain ⟨-, rfl⟩ := Prod.mk.inj (Except.ok.inj hread)
      obtain ⟨members, last, hmembers⟩ :=
        exists_of_members (grammaticalMember_memberWith ih) hmembers
      exact ⟨.object members last, by rw [hc.resolve_left hne, hmembers]; rfl⟩

/-! ## Passing over a source -/

/-- A reader `skipMemberWith value` takes a member if `value` takes a source. -/
private theorem grammaticalMember_skipMemberWith {value : Reader Unit} (h : value.Grammatical) :
    GrammaticalMember (skipMemberWith value) := by
  intro _ cs _ rest hread
  obtain ⟨cs₁, hkey, hread⟩ := bind_eq_ok hread
  obtain ⟨cs₂, hcolon, hread⟩ := bind_eq_ok hread
  obtain ⟨q, hq⟩ := exists_of_skipString hkey
  obtain ⟨after, hafter⟩ := exists_of_colon hcolon
  obtain ⟨before, s, hs⟩ := h hread
  exact exists_member hq hafter hs

/-- What `skipWithin` passes over is a source if this holds for one level less, should there be one.
-/
private theorem grammatical_skipWithin_of_pred (depth : Nat)
    (h : ∀ d, depth = d + 1 → (skipWithin d).Grammatical) : (skipWithin depth).Grammatical := by
  refine Reader.grammatical_of_token (fun {cs c cs' _ rest} hcs hread => ?_) fun hcs hread => ?_
  · rw [skipWithin.eq_def] at hread
    simp only [hcs] at hread
    -- The branches of `skipWithin`, in the same order as those of `valueWith`.
    split at hread
    · rename_i hc
      exact hc ▸ exists_of_name .null rfl hread
    split at hread
    · rename_i hc
      exact hc ▸ exists_of_name (.bool true) rfl hread
    split at hread
    · rename_i hc
      exact hc ▸ exists_of_name (.bool false) rfl hread
    split at hread
    · obtain ⟨unread, hnumber, hread⟩ := bind_eq_ok hread
      obtain ⟨-, rfl⟩ := Prod.mk.inj (Except.ok.inj hread)
      obtain ⟨n, hn⟩ := exists_of_skipNumber hnumber
      exact ⟨.number n, hn⟩
    split at hread
    · rename_i hc
      obtain ⟨unread, hstring, hread⟩ := bind_eq_ok hread
      obtain ⟨-, rfl⟩ := Prod.mk.inj (Except.ok.inj hread)
      obtain ⟨q, hq⟩ := exists_of_skipString hstring
      exact ⟨.string q, by rw [hc, hq]; rfl⟩
    split at hread
    · rename_i hbracket
      split at hread
      · cases hread
      · rename_i depth
        split at hread
        · rename_i hc
          obtain ⟨⟨us, unread⟩, hitems, hread⟩ := bind_eq_ok hread
          obtain ⟨-, rfl⟩ := Prod.mk.inj (Except.ok.inj hread)
          obtain ⟨items, last, hitems⟩ := exists_of_items (h depth rfl) hitems
          exact ⟨.array items last, by rw [hc, hitems]; rfl⟩
        · rename_i hne
          obtain ⟨members, last, hmembers⟩ :=
            exists_of_members (grammaticalMember_skipMemberWith (h depth rfl)) hread
          have hc : c = '\x7b' := by simpa [hne] using hbracket
          exact ⟨.object members last, by rw [hc, hmembers]; rfl⟩
    · cases hread
  · rw [skipWithin.eq_def] at hread
    simp only [hcs] at hread
    cases hread

/-- What `skip` passes over is a source. -/
theorem grammatical_skip : skip.Grammatical := by
  have hskip (depth : Nat) : (skipWithin depth).Grammatical := by
    induction depth with
    | zero => exact grammatical_skipWithin_of_pred 0 fun d hd => by cases hd
    | succ depth ih =>
      refine grammatical_skipWithin_of_pred (depth + 1) fun d hd => ?_
      cases hd
      exact ih
  intro cs _ rest h
  -- The depth that `skip` starts with is the length of the text; any depth would do here.
  exact hskip cs.length h

/-- A text that `Reader.run` takes as a whole by a `Grammatical` reader is one of the grammar. -/
theorem Reader.Grammatical.exists_of_run {read : Reader α} (hread : read.Grammatical)
    {text : String} {a : α} (h : read.run text = .ok a) : ∃ p : Padded Source, p.text = text := by
  rw [Reader.run] at h
  cases hresult : read text.toList with
  | error fault => rw [hresult] at h; cases h
  | ok r =>
    obtain ⟨before, s, hs⟩ := hread hresult
    -- Whatever stands behind the source are spaces, since `Reader.run` leaves nothing else.
    obtain ⟨after, hafter⟩ := exists_spaces r.2
    cases hend : skipSpace r.2 with
    | nil =>
      rw [hend, List.append_nil] at hafter
      exact ⟨⟨before, s, after⟩, by rw [Padded.text, ← hafter, ← hs, String.ofList_toList]⟩
    | cons c cs =>
      simp only [hresult, ok_bind, hend] at h
      cases h

end HttpStub.Json
