import HttpStub.Proofs.Rule.Places

/-!
# Durations on the wire

Wherever a duration goes over the wire it is cut to the same number: its whole milliseconds, or the
greatest 64-bit word if they are more than that. They are added up in words of 128 bits, of which
the seconds and nanoseconds of a duration never need all. A longer duration is never cut to less,
so the bounds of a uniform delay keep their order. The delay in the old place of a rule is left out
for those durations that would be written as zero there.
-/

namespace HttpStub

namespace Duration

/-- `wholeMillis` are the whole milliseconds of `totalNanos`. -/
theorem wholeMillis_eq_div (d : Duration) : d.wholeMillis = d.totalNanos / 1000000 := by
  rw [wholeMillis, totalNanos]
  omega

/-- `millis` are the whole milliseconds of `totalNanos`, or the greatest word. -/
theorem toNat_millis_eq (d : Duration) :
    d.millis.toNat = min (d.totalNanos / 1000000) (UInt64.size - 1) := by
  rw [toNat_millis, wholeMillis_eq_div]

/-- A longer duration has no fewer `millis`. -/
theorem millis_mono {d e : Duration} (h : d.totalNanos ≤ e.totalNanos) : d.millis ≤ e.millis := by
  -- Cutting and capping both keep the order.
  have hdiv : d.totalNanos / 1000000 ≤ e.totalNanos / 1000000 := Nat.div_le_div_right h
  rw [UInt64.le_iff_toNat_le, toNat_millis_eq, toNat_millis_eq]
  omega

/-! ## Words of 128 bits -/

/-- The `seconds`, in milliseconds. -/
def wideSeconds (d : Duration) : BitVec 128 :=
  BitVec.ofNat 128 d.seconds * 1000#128

/-- The whole milliseconds among the `nanos`. -/
def wideRest (d : Duration) : BitVec 128 :=
  BitVec.ofNat 128 (d.nanos / 1000000)

/-- A wide word as a 64-bit word, its greatest value if it does not fit; `narrow_wide` is about the
sum. -/
def narrow (w : BitVec 128) : UInt64 :=
  if w.toNat < UInt64.size then UInt64.ofNat w.toNat else UInt64.ofNat (UInt64.size - 1)

/-- Nothing of the seconds is lost in `wideSeconds`. -/
theorem toNat_wideSeconds (d : Duration) : d.wideSeconds.toNat = d.seconds * 1000 := by
  -- A 64-bit word times a thousand is far from 128 bits.
  have hseconds : d.seconds < 2 ^ 64 := d.seconds_lt
  rw [wideSeconds, BitVec.toNat_mul, BitVec.toNat_ofNat, BitVec.toNat_ofNat]
  omega

/-- Nor is anything lost in `wideRest`. -/
theorem toNat_wideRest (d : Duration) : d.wideRest.toNat = d.nanos / 1000000 := by
  -- The nanoseconds are fewer than those of a second.
  have hnanos := d.nanos_lt
  rw [wideRest, BitVec.toNat_ofNat]
  omega

/-- The seconds of a duration, in milliseconds, fit into the wide word of `wideSeconds`. -/
theorem umulOverflow_eq_false (d : Duration) :
    BitVec.umulOverflow (BitVec.ofNat 128 d.seconds) 1000#128 = false := by
  have hseconds : d.seconds < 2 ^ 64 := d.seconds_lt
  simp only [BitVec.umulOverflow, BitVec.toNat_ofNat, decide_eq_false_iff_not]
  omega

/-- So they do together with `wideRest`. -/
theorem uaddOverflow_eq_false (d : Duration) :
    BitVec.uaddOverflow d.wideSeconds d.wideRest = false := by
  have hseconds : d.seconds < 2 ^ 64 := d.seconds_lt
  have hnanos := d.nanos_lt
  simp only [BitVec.uaddOverflow, toNat_wideSeconds, toNat_wideRest, decide_eq_false_iff_not]
  omega

/-- The sum of `wideSeconds` and `wideRest` is `wholeMillis`. -/
theorem toNat_wide (d : Duration) : (d.wideSeconds + d.wideRest).toNat = d.wholeMillis := by
  have hseconds : d.seconds < 2 ^ 64 := d.seconds_lt
  have hnanos := d.nanos_lt
  rw [BitVec.toNat_add, toNat_wideSeconds, toNat_wideRest, wholeMillis]
  omega

/-- `millis`, the number on the wire, is the wide sum, narrowed. -/
theorem narrow_wide (d : Duration) : narrow (d.wideSeconds + d.wideRest) = d.millis := by
  -- Either the sum fits, or it is more than the greatest word.
  rw [narrow, toNat_wide, millis]
  split
  · rename_i hlt
    rw [Nat.min_eq_left (by omega)]
  · rename_i hge
    rw [Nat.min_eq_right (by omega)]

end Duration

/-! ## On the wire -/

namespace Delay

/-- `Delay.fixed` is told by its milliseconds. -/
theorem tells_fixed (d : Duration) :
    (fixed d).toJson.Tells ["milliseconds"] (some (.nat d.millis.toNat)) := by
  -- No key of a delay is repeated, so what is found in the document is told.
  have htells := Json.tells_of_not_repeatsKey (fixed d).not_repeatsKey ["milliseconds"]
  simpa [fixed, toJson, Entries.lookup_cons] using htells

/-- `Delay.logNormal` tells the milliseconds of its median. -/
theorem tells_logNormal (median : Duration) (sigma : Float) :
    (logNormal median sigma).toJson.Tells ["median"] (some (.nat median.millis.toNat)) := by
  have htells := Json.tells_of_not_repeatsKey (logNormal median sigma).not_repeatsKey ["median"]
  simpa [logNormal, toJson, Entries.lookup_cons] using htells

/-- `Delay.uniform` tells the milliseconds of its bounds. -/
theorem tells_uniform (lower upper : Duration) :
    (uniform lower upper).toJson.Tells ["lower"] (some (.nat lower.millis.toNat)) ∧
      (uniform lower upper).toJson.Tells ["upper"] (some (.nat upper.millis.toNat)) := by
  have htells := Json.tells_of_not_repeatsKey (uniform lower upper).not_repeatsKey
  constructor
  · simpa [uniform, toJson, Entries.lookup_cons] using htells ["lower"]
  · simpa [uniform, toJson, Entries.lookup_cons] using htells ["upper"]

end Delay

/-- `Dribble.spread` tells the milliseconds of its span. -/
theorem Dribble.tells_spread (chunks : UInt32) (total : Duration) :
    (spread chunks total).toJson.Tells ["totalDuration"] (some (.nat total.millis.toNat)) := by
  have htells := Json.tells_of_not_repeatsKey (spread chunks total).not_repeatsKey ["totalDuration"]
  simpa [spread, toJson, Entries.lookup_cons] using htells

/-- The last delay that `StubRule.Step.fixedDelay` set stands in the old place unless it is cut to
nothing. -/
theorem StubRule.tells_lastDelay (r : StubRule) {steps : List Step} {d : Duration}
    (h : lastDelay? steps = some d) :
    (r.applyAll steps).toJson.Tells ["response", "fixedDelayMilliseconds"]
      (if d.millis.toNat = 0 then none else some (.nat d.millis.toNat)) := by
  have htells := (r.applyAll steps).tells_fixedDelay
  rw [fixedDelay_applyAll, h, Option.elim_some] at htells
  -- The rule asks for a whole millisecond, and a duration without one is written as zero.
  have hzero : d.millis.toNat = 0 ↔ ¬0 < d.wholeMillis := by
    rw [Duration.toNat_millis]
    have hsize : 1 < UInt64.size := by decide
    omega
  -- The place is there for a whole millisecond, and for nothing below.
  by_cases hpos : 0 < d.wholeMillis
  · rw [if_pos hpos] at htells
    rw [if_neg fun h0 => hzero.1 h0 hpos]
    exact htells
  · rw [if_neg hpos] at htells
    rw [if_pos (hzero.2 hpos)]
    exact htells

/-- Every duration is cut in the same way. Its milliseconds are added up without overflow and then
narrowed, and the whole of them in its nanoseconds, capped by the greatest 64-bit word, stands
wherever it is written: in a fixed delay, as the median of a log-normal one, as either bound of a
uniform one, as the span of a dribble, and as the delay in the old place of a rule, where it is left
out if and only if it would be zero. A longer duration is not cut to less, so the bounds of a
uniform delay stand in their order. -/
theorem Duration.millis_is_told_everywhere (d : Duration) :
    let ms := min (d.totalNanos / 1000000) (UInt64.size - 1)
    (BitVec.umulOverflow (BitVec.ofNat 128 d.seconds) 1000#128 = false ∧
      BitVec.uaddOverflow d.wideSeconds d.wideRest = false ∧
      (d.wideSeconds + d.wideRest).toNat = d.totalNanos / 1000000 ∧
      narrow (d.wideSeconds + d.wideRest) = d.millis ∧ d.millis.toNat = ms) ∧
    ((Delay.fixed d).toJson.Tells ["milliseconds"] (some (.nat ms)) ∧
      (∀ sigma, (Delay.logNormal d sigma).toJson.Tells ["median"] (some (.nat ms))) ∧
      (∀ other, (Delay.uniform d other).toJson.Tells ["lower"] (some (.nat ms)) ∧
        (Delay.uniform other d).toJson.Tells ["upper"] (some (.nat ms))) ∧
      ∀ chunks, (Dribble.spread chunks d).toJson.Tells ["totalDuration"] (some (.nat ms))) ∧
    (∀ (rule : StubRule) (steps : List StubRule.Step), StubRule.lastDelay? steps = some d →
      (rule.applyAll steps).toJson.Tells ["response", "fixedDelayMilliseconds"]
        (if ms = 0 then none else some (.nat ms))) ∧
    ∀ longer : Duration, d.totalNanos ≤ longer.totalNanos →
      d.millis ≤ longer.millis ∧ ∃ lower upper : Nat, lower ≤ upper ∧
        (Delay.uniform d longer).toJson.Tells ["lower"] (some (.nat lower)) ∧
        (Delay.uniform d longer).toJson.Tells ["upper"] (some (.nat upper)) := by
  intro ms
  have hms : d.millis.toNat = ms := d.toNat_millis_eq
  have hwide : (d.wideSeconds + d.wideRest).toNat = d.totalNanos / 1000000 := by
    rw [toNat_wide, wholeMillis_eq_div]
  refine ⟨⟨d.umulOverflow_eq_false, d.uaddOverflow_eq_false, hwide, d.narrow_wide, hms⟩, ?_, ?_, ?_⟩
  · -- All places have the number of `millis`, each under a key of its own.
    rw [← hms]
    exact ⟨Delay.tells_fixed d, Delay.tells_logNormal d,
      fun other => ⟨(Delay.tells_uniform d other).1, (Delay.tells_uniform other d).2⟩,
      fun chunks => Dribble.tells_spread chunks d⟩
  · intro rule steps hlast
    rw [← hms]
    exact rule.tells_lastDelay hlast
  · -- The two bounds are told in their own places, and `millis_mono` orders them.
    intro longer hle
    obtain ⟨hlower, hupper⟩ := Delay.tells_uniform d longer
    have hmono : d.millis ≤ longer.millis := millis_mono hle
    exact ⟨hmono, _, _, UInt64.le_iff_toNat_le.1 hmono, hlower, hupper⟩

/-- The longest duration is capped, and one just below a millisecond takes back the delay in the old
place that was set before. -/
theorem Duration.millis_is_told_everywhere_capped :
    let least : Duration := ⟨0, 999999, by decide, by decide⟩
    let most : Duration := ⟨UInt64.size - 1, 999999999, by decide, by decide⟩
    let steps : List StubRule.Step := [.fixedDelay most, .fixedDelay least]
    let rule := (StubRule.of ⟨0, 0⟩ "GET" (.equalTo "/")).applyAll steps
    (Delay.fixed most).toJson.Tells ["milliseconds"] (some (.nat 18446744073709551615)) ∧
      (StubRule.lastDelay? steps = some least ∧
        rule.toJson.Tells ["response", "fixedDelayMilliseconds"] none) ∧
      least.totalNanos ≤ most.totalNanos ∧ least.millis ≤ most.millis ∧
      ∃ lower upper : Nat, lower ≤ upper ∧
        (Delay.uniform least most).toJson.Tells ["lower"] (some (.nat lower)) ∧
        (Delay.uniform least most).toJson.Tells ["upper"] (some (.nat upper)) := by
  intro least most steps rule
  have hle : least.totalNanos ≤ most.totalNanos := by decide
  have hleast : min (least.totalNanos / 1000000) (UInt64.size - 1) = 0 := by decide
  have hmost : min (most.totalNanos / 1000000) (UInt64.size - 1) = 18446744073709551615 := by decide
  obtain ⟨-, ⟨hfixed, -⟩, -, -⟩ := millis_is_told_everywhere most
  obtain ⟨-, -, hlast, hbounds⟩ := millis_is_told_everywhere least
  rw [hmost] at hfixed
  -- The last step has its say, although the one before set a delay that lasts.
  have hnone := hlast (StubRule.of ⟨0, 0⟩ "GET" (.equalTo "/")) steps rfl
  rw [if_pos hleast] at hnone
  exact ⟨hfixed, ⟨rfl, hnone⟩, hle, hbounds most hle⟩

end HttpStub
