import AdSearch.Account.Metrics
import AdSearch.Proofs.Number.Rounding

/-!
# Ratios over windows

A ratio of two counters is their quotient, rounded to a number of the format, and then to decimal
places.  The days of a window are in both counters, so they cancel in the quotient, and the ratios
are those of one day.
-/

namespace AdSearch.Proofs.Account.Ratios

open AdSearch.Proofs.Number.Rounding

variable {num den : Int} {places : Nat} {x x' : Except Failure Binary64}

/-! ## Quotients -/

/-- What a division of integers by one that is not zero gives: the number nearest to the quotient,
or a failure if that is beyond the range. -/
structure IsQuotient (num den : Int) (x : Except Failure Binary64) : Prop where
  den_ne : den ≠ 0
  nearest : ∃ m e, IsNearest |(num / den : ℚ)| m e ∧ x =
    if e ≤ Binary64.greatestExponent then .ok (.finite ((num < 0) != (den < 0)) m e)
    else .error .quotientBeyondRange

theorem IsQuotient.unique (h : IsQuotient num den x) (h' : IsQuotient num den x') : x = x' := by
  obtain ⟨-, m, e, hnearest, rfl⟩ := h
  obtain ⟨-, m', e', hnearest', rfl⟩ := h'
  obtain ⟨rfl, rfl⟩ := hnearest.unique hnearest'
  rfl

/-- A common factor is neither in the quotient nor in its sign. -/
theorem IsQuotient.mul_right (h : IsQuotient num den x) {k : Int} (hk : 0 < k) :
    IsQuotient (num * k) (den * k) x := by
  obtain ⟨hden, m, e, hnearest, rfl⟩ := h
  have hquotient : ((num * k : Int) / (den * k : Int) : ℚ) = num / den := by
    have hk' : (k : ℚ) ≠ 0 := by exact_mod_cast hk.ne'
    rw [Int.cast_mul, Int.cast_mul, mul_div_mul_right _ _ hk']
  have hsign : ∀ i : Int, i * k < 0 ↔ i < 0 := fun i => by rw [mul_neg_iff]; omega
  refine ⟨mul_ne_zero hden hk.ne', m, e, by rwa [hquotient], ?_⟩
  rw [decide_eq_decide.mpr (hsign num), decide_eq_decide.mpr (hsign den)]

/-- The quotient of two integers, or a failure beyond the range. -/
def quotient (num den : Int) : Except Failure Binary64 :=
  (Binary64.ofRatio ((num < 0) != (den < 0)) num.natAbs den.natAbs).elim
    (.error .quotientBeyondRange) .ok

theorem isQuotient_quotient (num : Int) (hden : den ≠ 0) :
    IsQuotient num den (quotient num den) := by
  obtain ⟨m, e, hnearest, hratio⟩ :=
    ofRatio_spec ((num < 0) != (den < 0)) num.natAbs (Int.natAbs_pos.mpr hden)
  have habs : |(num / den : ℚ)| = num.natAbs / den.natAbs := by
    rw [abs_div, Nat.cast_natAbs, Nat.cast_natAbs, Int.cast_abs, Int.cast_abs]
  refine ⟨hden, m, e, by rwa [habs], ?_⟩
  rw [quotient, hratio]
  split_ifs
  · rfl
  · rfl

/-! ## Ratios -/

/-- What the ratio of two counters is: zero without a divisor, and else their quotient in decimal
places. -/
inductive IsRatio (places : Nat) (num den : Int) : Except Failure Binary64 → Prop
  | guarded : den = 0 → IsRatio places num den (.ok (Binary64.zero false))
  | divided {x : Except Failure Binary64} : IsQuotient num den x →
    IsRatio places num den (x.map (Binary64.roundPlaces places))

theorem ratio_eq (places : Nat) (num : Int) (hden : den ≠ 0) :
    ratio places num den = (quotient num den).map (Binary64.roundPlaces places) := by
  rw [ratio, if_neg hden, quotient]
  cases Binary64.ofRatio ((num < 0) != (den < 0)) num.natAbs den.natAbs with
  | none => rfl
  | some x => rfl

theorem isRatio_ratio (places : Nat) (num den : Int) :
    IsRatio places num den (ratio places num den) := by
  by_cases hden : den = 0
  · rw [ratio, if_pos hden]
    exact .guarded hden
  · rw [ratio_eq places num hden]
    exact .divided (isQuotient_quotient num hden)

theorem IsRatio.unique (h : IsRatio places num den x) (h' : IsRatio places num den x') :
    x = x' := by
  cases h with
  | guarded hden =>
    cases h' with
    | guarded => rfl
    | divided hquotient => exact absurd hden hquotient.den_ne
  | divided hquotient =>
    cases h' with
    | guarded hden => exact absurd hden hquotient.den_ne
    | divided hquotient' => rw [hquotient.unique hquotient']

theorem IsRatio.mul_right (h : IsRatio places num den x) {k : Int} (hk : 0 < k) :
    IsRatio places (num * k) (den * k) x := by
  cases h with
  | guarded hden => exact .guarded (by rw [hden, zero_mul])
  | divided hquotient => exact .divided (hquotient.mul_right hk)

/-- Both counters of a ratio may grow by the same factor. -/
theorem ratio_mul_right (places : Nat) (num den : Int) {k : Int} (hk : 0 < k) :
    ratio places (num * k) (den * k) = ratio places num den :=
  (isRatio_ratio places (num * k) (den * k)).unique ((isRatio_ratio places num den).mul_right hk)

/-! ## Metrics -/

/-- The two ratios among metrics. -/
def ratiosOf (v : Value) : Option Value × Option Value := (v.get? ["ctr"], v.get? ["average_cpc"])

/-- Both ratios, or the first failure on the way. -/
def bothRatios (ctr averageCpc : Except Failure Binary64) :
    Except Failure (Option Value × Option Value) := do
  let x ← ctr
  let y ← averageCpc
  .ok (some (.float x), some (.float y))

theorem map_ratiosOf_over (m : DailyMetrics) (days : Nat) :
    (m.over days).map ratiosOf = bothRatios (ratio 4 (m.clicks * days) (m.impressions * days))
      (ratio 2 (m.costMicros * days) (m.clicks * days)) := by
  rw [DailyMetrics.over]
  cases ratio 4 (m.clicks * days) (m.impressions * days) with
  | error e => rfl
  | ok ctr =>
    cases ratio 2 (m.costMicros * days) (m.clicks * days) with
    | error e => rfl
    | ok averageCpc => rfl

/-- The ratios over a window are those of one day, and fail as those do.  They have a divisor over
the window exactly if they have one for a day.  Over any number of days they are zero without a
divisor, and else the number nearest to the quotient, in decimal places: nothing is divided by
zero. -/
theorem ratios_of_one_day (m : DailyMetrics) (days : Nat) (hdays : 1 ≤ days) :
    (m.over days).map ratiosOf = (m.over 1).map ratiosOf ∧
    (m.impressions * days = 0 ↔ m.impressions = 0) ∧ (m.clicks * days = 0 ↔ m.clicks = 0) ∧
    ∀ n : Nat, ∃ ctr averageCpc, IsRatio 4 (m.clicks * n) (m.impressions * n) ctr ∧
      IsRatio 2 (m.costMicros * n) (m.clicks * n) averageCpc ∧
      (m.over n).map ratiosOf = bothRatios ctr averageCpc := by
  have hpos : (0 : Int) < days := by omega
  have hzero : ∀ i : Int, i * days = 0 ↔ i = 0 := fun i => mul_eq_zero_iff_right hpos.ne'
  refine ⟨?_, hzero _, hzero _, fun n => ?_⟩
  · rw [map_ratiosOf_over, map_ratiosOf_over, ratio_mul_right 4 _ _ hpos,
      ratio_mul_right 2 _ _ hpos, Nat.cast_one, mul_one, mul_one, mul_one]
  · exact ⟨_, _, isRatio_ratio _ _ _, isRatio_ratio _ _ _, map_ratiosOf_over m n⟩

/-- Metrics with a third and with five thirds as their ratios. -/
def thirds : DailyMetrics := ⟨9, 3, 5, 0⟩

theorem ratios_of_one_day_thirds :
    (thirds.over 7).map ratiosOf = .ok (some (.float (.finite false 6004199023210345 (-54))),
      some (.float (.finite false 7521011377708728 (-52)))) := by
  have hctr : ratio 4 3 9 = .ok (.finite false 6004199023210345 (-54)) := by decide +kernel
  have hcpc : ratio 2 5 3 = .ok (.finite false 7521011377708728 (-52)) := by decide +kernel
  obtain ⟨hsame, -⟩ := ratios_of_one_day thirds 7 (by decide)
  rw [hsame, map_ratiosOf_over]
  change bothRatios (ratio 4 3 9) (ratio 2 5 3) = _
  rw [hctr, hcpc]
  rfl

end AdSearch.Proofs.Account.Ratios
