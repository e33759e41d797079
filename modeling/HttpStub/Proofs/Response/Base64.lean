import HttpStub.Base64

/-!
# Base64 is read back

The letters of a sequence of bytes are decoded to just these bytes, whatever the length of the last
group.
-/

namespace HttpStub.Base64

/-- `number?` gives back the number of a `letter`, which is no equals sign. -/
private theorem number?_letter : ∀ n < 64, number? (letter n) = some n ∧ letter n ≠ '=' := by
  -- There are only sixty-four letters.
  decide

/-- A number that a byte stands for gives back the byte. -/
private theorem ofNat_eq {n : Nat} {x : UInt8} (h : n = x.toNat) : UInt8.ofNat n = x := by
  rw [h, UInt8.ofNat_toNat]

/-- Four letters that are no equals sign are decoded by `decode?` to three bytes, wherever they
stand. -/
private theorem decode?_group {a b c d : Nat} (ha : a < 64) (hb : b < 64) (hc : c < 64)
    (hd : d < 64) (rest : List Char) :
    decode? (letter a :: letter b :: letter c :: letter d :: rest) =
      (decode? rest).map fun bytes =>
        UInt8.ofNat (a * 4 + b / 16) :: UInt8.ofNat (b % 16 * 16 + c / 4) ::
          UInt8.ofNat (c % 4 * 64 + d) :: bytes := by
  -- The last group is decoded by a case of its own.
  cases rest with
  | nil => simp [decode?, number?_letter, ha, hb, hc, hd]
  | cons e rest =>
    cases h : decode? (e :: rest) <;> simp [decode?, number?_letter, ha, hb, hc, hd, h]

/-- `decode?` gives back the bytes whose letters `encode` puts. -/
theorem decode?_encode (bytes : List UInt8) : decode? (encode bytes) = some bytes := by
  -- By induction on the groups of three bytes, with two kinds of a shorter last group.
  induction bytes using encode.induct with
  | case1 => rfl
  | case2 a =>
    have ha := a.toNat_lt
    have hw := number?_letter (a.toNat / 4) (by omega)
    have hx := number?_letter (a.toNat % 4 * 16) (by omega)
    -- The bits that fill up the group are zero.
    have hfill : a.toNat % 4 * 16 % 16 = 0 := by omega
    have hbyte : UInt8.ofNat (a.toNat / 4 * 4 + a.toNat % 4 * 16 / 16) = a :=
      ofNat_eq (by omega)
    simp only [encode, decode?, hw.1, hx.1, bind, Option.bind, pure, if_pos, hfill, and_self, hbyte]
  | case3 a b =>
    have ha := a.toNat_lt
    have hb := b.toNat_lt
    have hw := number?_letter (a.toNat / 4) (by omega)
    have hx := number?_letter (a.toNat % 4 * 16 + b.toNat / 16) (by omega)
    have hy := number?_letter (b.toNat % 16 * 4) (by omega)
    have hfill : b.toNat % 16 * 4 % 4 = 0 := by omega
    have hfirst : UInt8.ofNat
        (a.toNat / 4 * 4 + (a.toNat % 4 * 16 + b.toNat / 16) / 16) = a := ofNat_eq (by omega)
    have hsecond : UInt8.ofNat ((a.toNat % 4 * 16 + b.toNat / 16) % 16 * 16 +
        b.toNat % 16 * 4 / 4) = b := ofNat_eq (by omega)
    simp only [encode, decode?, hw.1, hx.1, hy, bind, Option.bind, pure, if_pos, if_false, hfill,
      hfirst, hsecond]
  | case4 a b c rest ih =>
    have ha := a.toNat_lt
    have hb := b.toNat_lt
    have hc := c.toNat_lt
    have hfirst : UInt8.ofNat
        (a.toNat / 4 * 4 + (a.toNat % 4 * 16 + b.toNat / 16) / 16) = a := ofNat_eq (by omega)
    have hsecond : UInt8.ofNat ((a.toNat % 4 * 16 + b.toNat / 16) % 16 * 16 +
        (b.toNat % 16 * 4 + c.toNat / 64) / 4) = b := ofNat_eq (by omega)
    -- The bits of each byte are spread over two letters and come back together.
    have hthird : UInt8.ofNat ((b.toNat % 16 * 4 + c.toNat / 64) % 4 * 64 + c.toNat % 64) = c :=
      ofNat_eq (by omega)
    rw [encode, decode?_group (by omega) (by omega) (by omega) (by omega), ih, hfirst, hsecond,
      hthird]
    rfl

end HttpStub.Base64
