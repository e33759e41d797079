import HttpStub.Url.Percent

/-!
# Percent-decoding

Encoding a text does not change what it stands for, as long as neither the percent sign nor the
hexadecimal digits are encoded. A text stands for itself, byte for byte, if and only if it has no
percent sign with two digits behind it; every such escape makes it stand for fewer bytes than its
own.
-/

namespace HttpStub

namespace Text.Utf8

/-- `encode` puts the bytes of the characters one behind the other. -/
theorem encode_cons (c : Char) (cs : List Char) :
    encode (c :: cs) = String.utf8EncodeChar c ++ encode cs := rfl

/-- `encode` gives different texts different bytes. -/
theorem encode_inj {cs ds : List Char} : encode cs = encode ds ↔ cs = ds := by
  refine ⟨fun h => String.ofList_injective (String.toByteArray_inj.1 ?_), fun h => h ▸ rfl⟩
  have hbytes : cs.utf8Encode = ds.utf8Encode := by
    simp only [List.utf8Encode]
    exact congrArg List.toByteArray h
  rw [String.toByteArray_ofList, String.toByteArray_ofList, hbytes]

/-- Each character counts as many bytes as its `Char.utf8Size`. -/
theorem length_encode_cons (c : Char) (cs : List Char) :
    (encode (c :: cs)).length = c.utf8Size + (encode cs).length := by
  rw [encode_cons, List.length_append, String.length_utf8EncodeChar]

/-- Leaving out characters does not add bytes. -/
theorem length_encode_le_of_sublist {cs ds : List Char} (h : cs.Sublist ds) :
    (encode cs).length ≤ (encode ds).length := by
  induction h with
  | slnil => exact Nat.le_refl _
  | cons c _ ih => rw [length_encode_cons]; omega
  | cons_cons c _ ih => rw [length_encode_cons, length_encode_cons]; omega

/-- Leaving out characters leaves out bytes, so a part with as many bytes is the whole. -/
theorem eq_of_sublist_of_length_le {cs ds : List Char} (h : cs.Sublist ds)
    (hlength : (encode ds).length ≤ (encode cs).length) : cs = ds := by
  induction h with
  | slnil => rfl
  | cons c hrest ih =>
    have hpos := c.utf8Size_pos
    -- A character that is left out has at least one byte, which nothing makes up for.
    have hle := length_encode_le_of_sublist hrest
    rw [length_encode_cons] at hlength
    omega
  | cons_cons c hrest ih =>
    rw [length_encode_cons, length_encode_cons] at hlength
    rw [ih (by omega)]

/-- The bytes that `String.utf8EncodeChar` makes of a character tell where they end. -/
theorem encodeChar_append_inj {c d : Char} {bytes others : List UInt8} :
    String.utf8EncodeChar c ++ bytes = String.utf8EncodeChar d ++ others ↔
      c = d ∧ bytes = others := by
  refine ⟨fun h => ?_, fun ⟨hc, hbytes⟩ => hc ▸ hbytes ▸ rfl⟩
  have hdecode : ∀ (c : Char) (bytes : List UInt8),
      (String.utf8EncodeChar c ++ bytes).toByteArray.utf8DecodeChar? 0 = some c := by
    intro c bytes
    rw [List.toByteArray_append]
    exact ByteArray.utf8DecodeChar?_utf8EncodeChar_append
  -- The decoder finds `c` at the front of the one, and `d` at the front of the other.
  have hc : c = d := by
    have hfirst := hdecode c bytes
    rw [h, hdecode] at hfirst
    exact (Option.some.inj hfirst).symm
  subst hc
  exact ⟨rfl, List.append_cancel_left h⟩

end Text.Utf8

namespace Url.Percent

open Text (Utf8.encode)

/-- `hexValue?` reads back what `hexDigit` writes. -/
theorem hexValue?_hexDigit : ∀ n < 16, hexValue? (hexDigit n) = some n := by decide

/-- All characters with a `hexValue?` are in ASCII. -/
theorem toNat_lt_of_hexValue? {c : Char} {a : Nat} (h : hexValue? c = some a) : c.toNat < 128 := by
  unfold hexValue? at h
  split at h
  · rename_i hdigit
    have hle : c.toNat ≤ '9'.toNat := hdigit.2
    exact Nat.lt_of_le_of_lt hle (by decide)
  · split at h
    · rename_i hupper
      have hle : c.toNat ≤ 'F'.toNat := hupper.2
      exact Nat.lt_of_le_of_lt hle (by decide)
    · split at h
      · rename_i hlower
        have hle : c.toNat ≤ 'f'.toNat := hlower.2
        exact Nat.lt_of_le_of_lt hle (by decide)
      · cases h

/-- What holds of the characters with a `hexValue?` in ASCII holds of all of them, and those can be
gone through. -/
theorem of_hexValue? {p : Char → Nat → Prop} [DecidableRel p]
    (h : ∀ n < 128, ∀ a ∈ hexValue? (Char.ofNat n), p (Char.ofNat n) a) {c : Char} {a : Nat}
    (hc : hexValue? c = some a) : p c a := by
  have hp := h c.toNat (toNat_lt_of_hexValue? hc) a
  rw [Char.ofNat_toNat] at hp
  exact hp hc

/-- The byte that two hexadecimal digits at the front give, and the text behind them. -/
def escaped? : List Char → Option (UInt8 × List Char)
  | x :: y :: cs =>
    match hexValue? x, hexValue? y with
    | some a, some b => some (UInt8.ofNat (a * 16 + b), cs)
    | _, _ => none
  | _ => none

/-- Whether somewhere a percent sign has two hexadecimal digits behind it. -/
def hasEscape : List Char → Bool
  | [] => false
  | c :: cs => (c = '%' && (escaped? cs).isSome) || hasEscape cs

/-! ## One step of decoding -/

/-- At a percent sign `decode` takes the byte that `escaped?` finds behind it, or else the sign. -/
theorem decode_percent (cs : List Char) :
    decode ('%' :: cs) =
      match escaped? cs with
      | some (b, rest) => b :: decode rest
      | none => String.utf8EncodeChar '%' ++ decode cs := by
  match cs with
  | [] => rfl
  | [x] => rfl
  | x :: y :: rest =>
    rw [decode, escaped?]
    cases hexValue? x with
    | none => rfl
    | some a =>
      cases hexValue? y with
      | none => rfl
      | some b => rfl

/-- `decode` takes any other character for itself. -/
theorem decode_cons_of_ne {c : Char} (hc : c ≠ '%') (cs : List Char) :
    decode (c :: cs) = String.utf8EncodeChar c ++ decode cs := by
  rw [decode]
  exact fun _ _ _ h => absurd h hc

/-- `decode` gives no bytes for the empty text only. -/
theorem decode_eq_nil_iff {cs : List Char} : decode cs = [] ↔ cs = [] := by
  refine ⟨fun h => ?_, fun h => h ▸ rfl⟩
  cases cs with
  | nil => rfl
  | cons c cs =>
    by_cases hc : c = '%'
    · subst hc
      rw [decode_percent] at h
      split at h
      · cases h
      · cases h
    · rw [decode_cons_of_ne hc] at h
      exact absurd (List.append_eq_nil_iff.1 h).1 String.utf8EncodeChar_ne_nil

/-- `decode` reads back the bytes that `encodeByte` writes. -/
theorem decode_flatMap_encodeByte (bytes : List UInt8) (cs : List Char) :
    decode (bytes.flatMap encodeByte ++ cs) = bytes ++ decode cs := by
  induction bytes with
  | nil => rfl
  | cons b bytes ih =>
    have hlt := b.toNat_lt
    have hhigh := hexValue?_hexDigit (b.toNat / 16) (by omega)
    have hlow := hexValue?_hexDigit (b.toNat % 16) (by omega)
    -- The two digits are the quotient and the remainder by 16, which make up the byte.
    have hbyte : UInt8.ofNat (b.toNat / 16 * 16 + b.toNat % 16) = b := by
      rw [Nat.div_add_mod', UInt8.ofNat_toNat]
    rw [List.flatMap_cons, List.append_assoc, encodeByte]
    simp only [List.cons_append, List.nil_append, decode_percent, escaped?, hhigh, hlow, hbyte, ih]

/-! ## What an encoded text stands for -/

/-- Neither the percent sign nor a hexadecimal digit is encoded. -/
def SparesEscapes (set : CharSet) : Prop :=
  set '%' = false ∧ ∀ c a, hexValue? c = some a → set c = false

/-- What `encodeChar` makes of a character that is no digit does not begin with one. -/
private theorem hexValue?_head_encodeChar {set : CharSet} {c d : Char} {ds : List Char}
    (hc : hexValue? c = none) (h : encodeChar set c = d :: ds) : hexValue? d = none := by
  unfold encodeChar at h
  split at h
  · -- What is encoded begins with a percent sign.
    have hpercent : ∀ (bytes : List UInt8), bytes.flatMap encodeByte = d :: ds → d = '%' := by
      intro bytes hbytes
      cases bytes with
      | nil => cases hbytes
      | cons b bytes => exact ((List.cons.inj hbytes).1).symm
    rw [hpercent _ h]
    decide
  · rw [← (List.cons.inj h).1]
    exact hc

/-- `escaped?` finds nothing where the first character is no digit. -/
private theorem escaped?_cons_of_none {x : Char} (hx : hexValue? x = none) (cs : List Char) :
    escaped? (x :: cs) = none := by
  cases cs <;> simp [escaped?, hx]

/-- Nor does it where the second one is none. -/
private theorem escaped?_cons_cons_of_none (x : Char) {y : Char} (hy : hexValue? y = none)
    (cs : List Char) : escaped? (x :: y :: cs) = none := by
  cases hx : hexValue? x <;> simp [escaped?, hx, hy]

/-- `encodeChar` makes at least one character of each. -/
private theorem exists_encodeChar_cons (set : CharSet) (c : Char) :
    ∃ d ds, encodeChar set c = d :: ds := by
  unfold encodeChar
  split
  · have hpos := c.utf8Size_pos
    rw [← String.length_utf8EncodeChar] at hpos
    obtain ⟨b, bytes, hbytes⟩ := List.exists_cons_of_length_pos hpos
    exact ⟨_, _, by rw [hbytes]; rfl⟩
  · exact ⟨_, _, rfl⟩

/-- `escaped?` finds the same byte before and after encoding, with the encoded rest behind it. -/
private theorem escaped?_encode {set : CharSet} (hset : SparesEscapes set) (cs : List Char) :
    escaped? (encode set cs) = (escaped? cs).map fun e => (e.1, encode set e.2) := by
  -- A digit stays as it is, and only digits are looked at.
  have hplain : ∀ {c : Char} {a : Nat}, hexValue? c = some a → encodeChar set c = [c] := by
    intro c a hc
    rw [encodeChar, hset.2 c a hc]
    rfl
  have hcons : ∀ (c : Char) (ds : List Char),
      encode set (c :: ds) = encodeChar set c ++ encode set ds := fun _ _ => rfl
  cases cs with
  | nil => rfl
  | cons x ds =>
    cases hx : hexValue? x with
    | none =>
      obtain ⟨d, es, hd⟩ := exists_encodeChar_cons set x
      rw [hcons, hd, List.cons_append, escaped?_cons_of_none (hexValue?_head_encodeChar hx hd),
        escaped?_cons_of_none hx]
      rfl
    | some a =>
      -- The first digit is kept; what counts now is the character behind it.
      rw [hcons, hplain hx, List.singleton_append]
      cases ds with
      | nil => rfl
      | cons y rest =>
        cases hy : hexValue? y with
        | none =>
          obtain ⟨d, es, hd⟩ := exists_encodeChar_cons set y
          rw [hcons, hd, List.cons_append,
            escaped?_cons_cons_of_none x (hexValue?_head_encodeChar hy hd),
            escaped?_cons_cons_of_none x hy]
          rfl
        | some b =>
          rw [hcons, hplain hy, List.singleton_append]
          simp [escaped?, hx, hy]

/-- The text that `escaped?` leaves is part of the text, and shorter. -/
theorem length_of_escaped? {cs rest : List Char} {b : UInt8} (h : escaped? cs = some (b, rest)) :
    rest.length < cs.length ∧ rest.Sublist cs := by
  match cs with
  | [] => cases h
  | [x] => cases h
  | x :: y :: ds =>
    rw [escaped?] at h
    split at h
    · obtain ⟨-, rfl⟩ := Prod.mk.inj (Option.some.inj h)
      refine ⟨?_, (List.sublist_cons_self _ _).trans (List.sublist_cons_self _ _)⟩
      simp only [List.length_cons]
      omega
    · cases h

/-- `decode` gives the same bytes for a text and for its encoding. -/
theorem decode_encode {set : CharSet} (hset : SparesEscapes set) (cs : List Char) :
    decode (encode set cs) = decode cs := by
  -- Not by induction on the list: behind an escape the decoder goes on two characters further down.
  match cs with
  | [] => rfl
  | c :: ds =>
    have hcons : encode set (c :: ds) = encodeChar set c ++ encode set ds := rfl
    rw [hcons]
    by_cases hc : c = '%'
    · subst hc
      have hplain : encodeChar set '%' = ['%'] := by rw [encodeChar, hset.1]; rfl
      rw [hplain, List.singleton_append, decode_percent, decode_percent, escaped?_encode hset]
      cases hescaped : escaped? ds with
      | none =>
        simp only [Option.map_none]
        rw [decode_encode hset ds]
      | some e =>
        have hlt := (length_of_escaped? hescaped).1
        simp only [Option.map_some]
        rw [decode_encode hset e.2]
    · rw [decode_cons_of_ne hc, encodeChar]
      split
      · -- An encoded character stands for its bytes, as it did before.
        rw [decode_flatMap_encodeByte, decode_encode hset ds]
      · rw [List.singleton_append, decode_cons_of_ne hc, decode_encode hset ds]
termination_by cs.length
decreasing_by
  all_goals simp only [List.length_cons]; omega

/-! ## Texts that stand for themselves -/

/-- A text without percent signs has no escape, which is what `hasEscape` looks for. -/
theorem hasEscape_eq_false_of_notMem {cs : List Char} (h : '%' ∉ cs) : hasEscape cs = false := by
  induction cs with
  | nil => rfl
  | cons c cs ih =>
    rw [List.mem_cons, not_or] at h
    simp [hasEscape, Ne.symm h.1, ih h.2]

/-- `decode` of a text without escapes gives its own bytes. -/
theorem decode_of_hasEscape_eq_false {cs : List Char} (h : hasEscape cs = false) :
    decode cs = Utf8.encode cs := by
  induction cs with
  | nil => rfl
  | cons c cs ih =>
    simp only [hasEscape, Bool.or_eq_false_iff, Bool.and_eq_false_iff, decide_eq_false_iff_not,
      Option.isSome_eq_false_iff, Option.isNone_iff_eq_none] at h
    rw [Text.Utf8.encode_cons, ← ih h.2]
    by_cases hc : c = '%'
    · subst hc
      rw [decode_percent, h.1.resolve_left (by simp)]
    · exact decode_cons_of_ne hc cs

/-- `decode` gives no text more bytes than its own. -/
theorem length_decode_le (cs : List Char) : (decode cs).length ≤ (Utf8.encode cs).length := by
  match cs with
  | [] => exact Nat.le_refl _
  | c :: ds =>
    have hds := length_decode_le ds
    by_cases hc : c = '%'
    · subst hc
      rw [decode_percent, Text.Utf8.length_encode_cons]
      cases hescaped : escaped? ds with
      | none =>
        -- The percent sign stands for itself.
        rw [List.length_append, String.length_utf8EncodeChar]
        omega
      | some e =>
        -- The escape stands for one byte, and has three of its own.
        obtain ⟨hlt, hsublist⟩ := length_of_escaped? hescaped
        have hrest := length_decode_le e.2
        have hle := Text.Utf8.length_encode_le_of_sublist hsublist
        have hpos := Char.utf8Size_pos '%'
        simp only [List.length_cons]
        omega
    · rw [decode_cons_of_ne hc, Text.Utf8.length_encode_cons, List.length_append,
        String.length_utf8EncodeChar]
      omega
termination_by cs.length
decreasing_by
  all_goals simp only [List.length_cons]; omega

/-- With an escape it gives fewer. -/
theorem length_decode_lt {cs : List Char} (h : hasEscape cs = true) :
    (decode cs).length < (Utf8.encode cs).length := by
  induction cs with
  | nil => cases h
  | cons c cs ih =>
    simp only [hasEscape, Bool.or_eq_true, Bool.and_eq_true, decide_eq_true_eq,
      Option.isSome_iff_exists] at h
    by_cases hc : c = '%'
    · subst hc
      rw [decode_percent, Text.Utf8.length_encode_cons]
      cases hescaped : escaped? cs with
      | none =>
        have hmore := ih (h.resolve_left (by simp [hescaped]))
        rw [List.length_append, String.length_utf8EncodeChar]
        omega
      | some e =>
        obtain ⟨hlt, hsublist⟩ := length_of_escaped? hescaped
        have hrest := length_decode_le e.2
        -- The two digits are not in the rest.
        have hne : (Utf8.encode e.2).length < (Utf8.encode cs).length := by
          refine Nat.lt_of_not_le fun hle => ?_
          have heq := Text.Utf8.eq_of_sublist_of_length_le hsublist hle
          rw [heq] at hlt
          exact Nat.lt_irrefl _ hlt
        have hpos := Char.utf8Size_pos '%'
        simp only [List.length_cons]
        omega
    · have hmore := ih (h.resolve_left fun hpercent => hc hpercent.1)
      rw [decode_cons_of_ne hc, Text.Utf8.length_encode_cons, List.length_append,
        String.length_utf8EncodeChar]
      omega

/-- A text stands for itself if and only if it has no escape. -/
theorem decode_eq_encode_iff (cs : List Char) :
    decode cs = Utf8.encode cs ↔ hasEscape cs = false := by
  refine ⟨fun h => Bool.eq_false_iff.2 fun hescape => ?_, decode_of_hasEscape_eq_false⟩
  have hlt := length_decode_lt hescape
  rw [h] at hlt
  exact Nat.lt_irrefl _ hlt

end Url.Percent

end HttpStub
