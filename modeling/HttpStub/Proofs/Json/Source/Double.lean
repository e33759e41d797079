import HttpStub.Json.Number
import HttpStub.Proofs.Json.Literals
import HttpStub.Proofs.Json.Source.Basic

/-!
# Doubles as sources

The text of a double is a number of the JSON grammar, in whichever layout it is written. The one
thing that could go wrong is a zero in front of other digits: the shortest decimal of a double that
is not zero has no digit zero to begin with.
-/

namespace HttpStub

/-! ## The first digit of the shortest decimal -/

namespace Decimal

/-- The numerator of `Rounding.perUnit` is positive. -/
theorem Rounding.perUnit_fst_pos (r : Rounding) (exponent : Int) : 0 < (r.perUnit exponent).1 :=
  Nat.mul_pos (Nat.pow_pos (by decide)) (Nat.pow_pos (by decide))

/-- An interval that lies above zero `contains` no zero. -/
theorem Rounding.digits_ne_zero_of_contains {r : Rounding} (hlow : 0 < r.low) {digits : Nat}
    {exponent : Int} (h : r.contains digits exponent = true) : digits ≠ 0 := by
  rintro rfl
  have hpos : 0 < r.low * (r.perUnit exponent).1 := Nat.mul_pos hlow (r.perUnit_fst_pos exponent)
  unfold contains at h
  simp only [Nat.zero_mul] at h
  split at h
  · simp only [Bool.and_eq_true, decide_eq_true_eq] at h
    omega
  · simp at h

/-- A point that `onGrid?` finds rounds to the double. -/
theorem Rounding.contains_of_onGrid? {r : Rounding} {exponent : Int} {d : Decimal}
    (h : r.onGrid? exponent = some d) : r.contains d.digits exponent = true := by
  -- Of the two points of the grid the nearer one is tried first.
  have hpoints : ∀ nearer farther : Nat,
      (if r.contains nearer exponent then some (⟨nearer, exponent⟩ : Decimal)
        else if r.contains farther exponent then some ⟨farther, exponent⟩
        else none) = some d → r.contains d.digits exponent = true := by
    intro nearer farther heq
    split at heq
    · rename_i hcontains
      rw [← Option.some.inj heq]
      exact hcontains
    · split at heq
      · rename_i hcontains
        rw [← Option.some.inj heq]
        exact hcontains
      · cases heq
  exact hpoints _ _ h

/-- The interval of a double that is not zero, as `Rounding.ofBits` has it, lies above zero. -/
theorem Rounding.low_ofBits_pos {bits : UInt64} (hpos : 0 < bits.toNat)
    (hlt : bits.toNat < 0x8000000000000000) : 0 < (ofBits bits).low := by
  let fraction := bits.toNat % 0x10000000000000
  let biased := bits.toNat / 0x10000000000000 % 0x800
  let significand := if biased = 0 then fraction else fraction + 0x10000000000000
  have hsignificand : 0 < significand := by
    show 0 < if biased = 0 then fraction else fraction + 0x10000000000000
    split <;> omega
  -- A unit of the significand has four parts, and the lower end is two of them away at most.
  have hstep : (if fraction = 0 ∧ 1 < biased then 1 else 2) ≤ 2 := by split <;> omega
  show 0 < 4 * significand - if fraction = 0 ∧ 1 < biased then 1 else 2
  omega

/-- The digits of the `shortest` decimal of a double that is not zero begin with no zero. -/
theorem digits_shortest {bits : UInt64} (hpos : 0 < bits.toNat)
    (hlt : bits.toNat < 0x8000000000000000) :
    (shortest bits).digits ≠ 0 ∨ (shortest bits).exponent = 0 := by
  unfold shortest
  -- The grids are tried from coarse to fine. Where no point is found, the double is written without
  -- an exponent.
  cases hfind : gridExponents.findSome? (Rounding.ofBits bits).onGrid? with
  | none => exact .inr rfl
  | some d =>
    obtain ⟨exponent, -, hgrid⟩ := List.exists_of_findSome?_eq_some hfind
    have hcontains := Rounding.contains_of_onGrid? hgrid
    exact .inl (Rounding.digits_ne_zero_of_contains (Rounding.low_ofBits_pos hpos hlt) hcontains)

end Decimal

namespace Json

/-! ## Digits -/

/-- The digits of a natural number, as `natChars` writes them. -/
def Digits.ofNat (n : Nat) : Digits :=
  ⟨natChars n, natChars_ne_nil n, fun _ => isDigit_of_mem_natChars⟩

/-- Only the digits of zero begin with a zero. -/
theorem eq_of_natChars_eq_cons {n : Nat} {ds : List Char} (h : natChars n = '0' :: ds) :
    n = 0 ∧ ds = [] := by
  by_cases hn : 0 < n
  · obtain ⟨d, tail, htail, hd⟩ := natChars_of_pos hn
    rw [htail] at h
    exact absurd (List.cons.inj h).1 hd
  · obtain rfl : n = 0 := by omega
    exact ⟨rfl, (List.cons.inj h).2.symm⟩

namespace FloatLayout

/-- What stands behind the sign of a double: a number of the grammar without a sign. -/
def IsUnsigned (cs : List Char) : Prop :=
  ∃ n : NumberSource, n.negative = false ∧ n.chars = cs

/-- Digits that begin with no zero, or are just one, and a fraction behind a point. -/
theorem isUnsigned_of_fraction {whole fraction : List Char} (hwhole : whole ≠ [])
    (hzero : ∀ ds, whole = '0' :: ds → ds = []) (hfraction : fraction ≠ [])
    (hdigits : ∀ c ∈ whole ++ fraction, c.isDigit = true) :
    IsUnsigned (whole ++ '.' :: fraction) := by
  let ds : Digits := ⟨whole, hwhole, fun c hc => hdigits c (List.mem_append_left _ hc)⟩
  let fs : Digits := ⟨fraction, hfraction, fun c hc => hdigits c (List.mem_append_right _ hc)⟩
  refine ⟨⟨false, ds, hzero, some fs, none⟩, rfl, ?_⟩
  simp [NumberSource.chars, NumberSource.fractionChars, NumberSource.exponentChars, ds, fs]

/-- Zeros are digits. -/
theorem isDigit_of_mem_replicate_zero {count : Nat} {c : Char} (hc : c ∈ List.replicate count '0') :
    c.isDigit = true := by
  rw [List.eq_of_mem_replicate hc]
  rfl

/-- Zeros may be put behind digits, but not behind a zero. -/
theorem isUnsigned_zeros_behind {n count : Nat} (h : n ≠ 0 ∨ count = 0) :
    IsUnsigned (natChars n ++ List.replicate count '0' ++ ['.', '0']) := by
  have hne : natChars n ≠ [] := natChars_ne_nil n
  refine isUnsigned_of_fraction (by simp [hne]) ?_ (by simp) ?_
  · -- If the first digit is a zero, the number is zero, and then no zeros follow.
    intro ds hds
    obtain ⟨d, tail, htail⟩ := List.exists_cons_of_ne_nil hne
    rw [htail, List.cons_append] at hds
    obtain ⟨rfl, rfl⟩ := List.cons.inj hds
    obtain ⟨rfl, rfl⟩ := eq_of_natChars_eq_cons htail
    obtain rfl : count = 0 := h.resolve_left (fun hn => hn rfl)
    rfl
  · intro c hc
    simp only [List.mem_append, List.mem_singleton] at hc
    obtain (hc | hc) | rfl := hc
    · exact isDigit_of_mem_natChars hc
    · exact isDigit_of_mem_replicate_zero hc
    · rfl

/-- The point may stand between any two digits. -/
theorem isUnsigned_point_between {n position : Nat} (hpos : 0 < position)
    (hlt : position < (natChars n).length) :
    IsUnsigned ((natChars n).take position ++ '.' :: (natChars n).drop position) := by
  refine isUnsigned_of_fraction ?_ ?_ ?_ ?_
  · intro hnil
    have hlength := congrArg List.length hnil
    rw [List.length_take, List.length_nil] at hlength
    omega
  · -- If the first digit is a zero, the number is zero, and it has no second digit.
    intro ds hds
    obtain ⟨d, tail, htail⟩ := List.exists_cons_of_ne_nil (natChars_ne_nil n)
    obtain ⟨before, rfl⟩ := Nat.exists_eq_add_one_of_ne_zero (Nat.ne_of_gt hpos)
    rw [htail, List.take_succ_cons] at hds
    obtain ⟨rfl, rfl⟩ := List.cons.inj hds
    obtain ⟨-, rfl⟩ := eq_of_natChars_eq_cons htail
    exact List.take_nil
  · intro hnil
    have hlength := congrArg List.length hnil
    rw [List.length_drop, List.length_nil] at hlength
    omega
  · rw [List.take_append_drop]
    exact fun _ => isDigit_of_mem_natChars

/-- In front of all digits the point has a zero before it. -/
theorem isUnsigned_zeros_before (n count : Nat) :
    IsUnsigned ('0' :: '.' :: List.replicate count '0' ++ natChars n) := by
  have hne : natChars n ≠ [] := natChars_ne_nil n
  rw [List.cons_append, List.cons_append, ← List.singleton_append]
  refine isUnsigned_of_fraction (by simp) ?_ (by simp [hne]) ?_
  · intro ds hds
    exact (List.cons.inj hds).2.symm
  · intro c hc
    simp only [List.mem_append, List.mem_singleton] at hc
    obtain rfl | hc | hc := hc
    · rfl
    · exact isDigit_of_mem_replicate_zero hc
    · exact isDigit_of_mem_natChars hc

/-- The layout `positional` is a number of the grammar, if there are no zeros to be put behind a
zero. -/
theorem isUnsigned_positional {n : Nat} {exponent : Int} (h : n ≠ 0 ∨ exponent = 0) :
    IsUnsigned (positional (natChars n) exponent) := by
  unfold positional
  simp only
  -- The point stands behind all digits, between two of them, or in front of all.
  by_cases hexponent : 0 ≤ exponent
  · rw [if_pos hexponent]
    exact isUnsigned_zeros_behind (h.imp_right fun hzero => by rw [hzero]; rfl)
  · rw [if_neg hexponent]
    by_cases hleading : 0 < exponent + (natChars n).length
    · rw [if_pos hleading]
      exact isUnsigned_point_between (by omega) (by omega)
    · rw [if_neg hleading]
      exact isUnsigned_zeros_before n _

/-- The layout `scientific` is a number of the grammar: one digit, the others as fraction, and an
exponent. -/
theorem isUnsigned_scientific (n : Nat) (leading : Int) :
    IsUnsigned (scientific (natChars n) leading) := by
  obtain ⟨d, tail, htail⟩ := List.exists_cons_of_ne_nil (natChars_ne_nil n)
  have hdigits : ∀ c ∈ d :: tail, c.isDigit = true := by
    intro c hc
    exact isDigit_of_mem_natChars (htail ▸ hc)
  have hfirst : ∀ c ∈ [d], c.isDigit = true := by
    intro c hc
    rw [List.mem_singleton.1 hc]
    exact hdigits d List.mem_cons_self
  let whole : Digits := ⟨[d], by simp, hfirst⟩
  have hzero : ∀ ds, whole.chars = '0' :: ds → ds = [] := by
    intro ds hds
    exact (List.cons.inj hds).2.symm
  let exponent : ExponentSource := ⟨false, some (decide (leading < 0)), .ofNat leading.natAbs⟩
  have hexponent : exponent.chars =
      (if 0 ≤ leading then ['e', '+'] else ['e', '-']) ++ natChars leading.natAbs := by
    by_cases hleading : leading < 0
    · have hle : ¬0 ≤ leading := by omega
      simp [exponent, ExponentSource.chars, ExponentSource.signChars, Digits.ofNat, hleading, hle]
    · have hle : 0 ≤ leading := by omega
      simp [exponent, ExponentSource.chars, ExponentSource.signChars, Digits.ofNat, hleading, hle]
  -- With a single digit there is no fraction.
  cases htail' : tail with
  | nil =>
    refine ⟨⟨false, whole, hzero, none, some exponent⟩, rfl, ?_⟩
    simp [NumberSource.chars, NumberSource.fractionChars, NumberSource.exponentChars, whole,
      hexponent, scientific, htail, htail']
  | cons e more =>
    let fraction : Digits := ⟨tail, by simp [htail'], fun c hc =>
      hdigits c (List.mem_cons_of_mem _ hc)⟩
    refine ⟨⟨false, whole, hzero, some fraction, some exponent⟩, rfl, ?_⟩
    simp [NumberSource.chars, NumberSource.fractionChars, NumberSource.exponentChars, whole,
      fraction, hexponent, scientific, htail, htail']

end FloatLayout

/-- A double is written as a number of the grammar, in any `FloatLayout`. -/
theorem NumberSource.exists_ofFloat (layout : FloatLayout) (x : Float) :
    ∃ n : NumberSource, n.chars = layout.chars x := by
  -- The bits without the sign. Only zero is written by itself, without its shortest decimal.
  let magnitude : UInt64 := x.toBits % 0x8000000000000000
  have hlt : magnitude.toNat < 0x8000000000000000 := by
    show (x.toBits % 0x8000000000000000).toNat < 0x8000000000000000
    rw [UInt64.toNat_mod]
    exact Nat.mod_lt _ (by decide)
  obtain ⟨n, hsign, hn⟩ : FloatLayout.IsUnsigned
      (if magnitude = 0 then ['0', '.', '0'] else layout.decimal (Decimal.shortest magnitude)) := by
    split
    · exact @FloatLayout.isUnsigned_positional 0 0 (.inr rfl)
    · rename_i hne
      have hpos : 0 < magnitude.toNat := by
        refine Nat.pos_of_ne_zero fun hzero => hne ?_
        exact UInt64.toNat_inj.1 hzero
      unfold FloatLayout.decimal
      simp only
      split
      · exact FloatLayout.isUnsigned_positional (Decimal.digits_shortest hpos hlt)
      · exact FloatLayout.isUnsigned_scientific _ _
  -- The sign is put in front.
  refine ⟨{ n with negative := !decide (x.toBits = magnitude) }, ?_⟩
  show _ = (if x.toBits = magnitude then [] else ['-']) ++ _
  rw [← hn, NumberSource.chars, NumberSource.chars, hsign]
  by_cases hbits : x.toBits = magnitude
  · simp [hbits, NumberSource.fractionChars, NumberSource.exponentChars]
  · simp [hbits, NumberSource.fractionChars, NumberSource.exponentChars]

end Json

end HttpStub
