import AdSearch.Proofs.Number.Rounding

/-!
# The range of the format

A magnitude is beyond the range when the power of two after the greatest number is nearer, or as
near: that power has the even significand.  So the range ends halfway between the two.
-/

namespace AdSearch.Proofs.Number.Range

open AdSearch.Binary64 AdSearch.Proofs.Number.Rounding

variable {m : Nat} {e : Int} {q : ℚ}

/-- The magnitude halfway between the greatest number and the power of two after it. -/
def rangeEnd : Nat := (2 ^ 54 - 1) * 2 ^ 970

theorem rangeEnd_eq : (rangeEnd : ℚ) = (2 ^ 53 - 1 / 2) * 2 ^ greatestExponent := by
  have hpow : ∀ n : Nat, (((2 ^ 54 - 1) * 2 ^ n : Nat) : ℚ) =
      (2 ^ 53 - 1 / 2) * 2 ^ ((n + 1 : Nat) : Int) := by
    intro n
    rw [zpow_natCast, pow_succ]
    push_cast
    ring
  exact hpow 970

/-- The greatest significand at the greatest exponent. -/
theorem canonical_greatest : Canonical (2 ^ 53 - 1) greatestExponent :=
  ⟨by decide, by decide, Or.inr (by decide)⟩

theorem value_greatest :
    value (2 ^ 53 - 1) greatestExponent = (2 ^ 53 - 1) * 2 ^ greatestExponent := by
  rw [value]
  norm_num

/-- The power of two after the greatest number. -/
theorem canonical_beyond : Canonical (2 ^ 52) (greatestExponent + 1) :=
  ⟨by decide, by decide, Or.inr le_rfl⟩

theorem value_beyond : value (2 ^ 52) (greatestExponent + 1) = 2 ^ 53 * 2 ^ greatestExponent := by
  rw [value, zpow_add_one₀ two_ne_zero]
  push_cast
  ring

theorem value_le_greatest (h : Canonical m e) (he : e ≤ greatestExponent) :
    value m e ≤ value (2 ^ 53 - 1) greatestExponent := by
  have hm : (m : ℚ) ≤ (2 ^ 53 - 1 : Nat) := by exact_mod_cast Nat.le_pred_of_lt h.significand
  have hexp : (2 : ℚ) ^ e ≤ 2 ^ greatestExponent := zpow_le_zpow_right₀ one_le_two he
  rw [value, value]
  gcongr

theorem beyond_le_value (h : Canonical m e) (he : greatestExponent < e) :
    value (2 ^ 52) (greatestExponent + 1) ≤ value m e := by
  have hm : ((2 ^ 52 : Nat) : ℚ) ≤ m := by
    have hleast : leastExponent < greatestExponent := by decide
    exact_mod_cast h.full.resolve_left (by omega)
  have hexp : (2 : ℚ) ^ (greatestExponent + 1) ≤ 2 ^ e := zpow_le_zpow_right₀ one_le_two he
  rw [value, value]
  gcongr

/-- The number nearest to a magnitude is in the range exactly if the magnitude is. -/
theorem le_greatestExponent_iff (h : IsNearest q m e) :
    e ≤ greatestExponent ↔ q < rangeEnd := by
  have hunit := two_zpow_pos greatestExponent
  have hgreatest := value_greatest
  have hbeyond := value_beyond
  rw [rangeEnd_eq]
  generalize (2 : ℚ) ^ greatestExponent = u at hunit hgreatest hbeyond ⊢
  constructor
  · intro he
    by_contra hge
    have hle := value_le_greatest h.canonical he
    -- The power of two is at least as near, so it ties with the greatest number, which is odd.
    have hnear : |q - value (2 ^ 52) (greatestExponent + 1)| ≤
        q - value (2 ^ 53 - 1) greatestExponent := by
      rw [hgreatest, hbeyond, abs_le]
      constructor <;> linarith
    have hfar : q - value m e ≤ |q - value m e| := le_abs_self _
    have hnearest := h.nearest _ _ canonical_beyond
    have heq : value m e = value (2 ^ 53 - 1) greatestExponent := by linarith
    have htie : |q - value (2 ^ 52) (greatestExponent + 1)| = |q - value m e| := by linarith
    have hne : value (2 ^ 52) (greatestExponent + 1) ≠ value m e := by
      rw [heq, hgreatest, hbeyond]
      intro hsame
      linarith
    have heven := h.even _ _ canonical_beyond hne htie
    obtain ⟨rfl, -⟩ := h.canonical.unique canonical_greatest heq
    exact absurd heven (by decide)
  · intro hlt
    by_contra hgt
    have hle := beyond_le_value h.canonical (not_le.mp hgt)
    have hnearest := h.nearest _ _ canonical_greatest
    have hfar : value m e - q ≤ |q - value m e| := by
      rw [abs_sub_comm]
      exact le_abs_self _
    have hnear : |q - value (2 ^ 53 - 1) greatestExponent| < value m e - q := by
      rw [hgreatest, abs_lt]
      rw [hbeyond] at hle
      constructor <;> linarith
    linarith

/-- An integer has a nearest number exactly if it is in the range. -/
theorem ofInt?_eq_none_iff (i : Int) : ofInt? i = none ↔ rangeEnd ≤ i.natAbs := by
  obtain ⟨m, e, hnearest, hratio⟩ := ofRatio_spec (i < 0) i.natAbs one_pos
  rw [Nat.cast_one, div_one] at hnearest
  have hiff := le_greatestExponent_iff hnearest
  rw [Nat.cast_lt] at hiff
  rw [ofInt?, hratio]
  by_cases he : e ≤ greatestExponent
  · have hlt := hiff.mp he
    simp [he, hlt]
  · have hge := not_lt.mp (mt hiff.mpr he)
    simp [he, hge]

/-- The range has at most so many digits. -/
theorem rangeEnd_le_pow {digits : Nat} (h : 1024 ≤ digits) : rangeEnd ≤ 10 ^ digits := by
  have hpow : ∀ n : Nat, 54 + n ≤ digits → (2 ^ 54 - 1) * 2 ^ n ≤ 10 ^ digits := by
    intro n hn
    calc (2 ^ 54 - 1) * 2 ^ n ≤ 2 ^ 54 * 2 ^ n := Nat.mul_le_mul_right _ (Nat.sub_le _ _)
      _ = 2 ^ (54 + n) := (Nat.pow_add 2 54 n).symm
      _ ≤ 2 ^ digits := Nat.pow_le_pow_right two_pos hn
      _ ≤ 10 ^ digits := Nat.pow_le_pow_left (by omega) digits
  exact hpow 970 h

/-! ## Numbers of the format -/

/-- A number that 64 bits can hold. -/
def InFormat : Binary64 → Prop
  | .finite _ m e => Canonical m e ∧ e ≤ greatestExponent
  | _ => True

theorem natAbs_truncate_le (negative : Bool) (m : Nat) (e : Int) :
    (truncate negative m e).natAbs ≤ m * 2 ^ e.toNat := by
  have hquotient : (magnitude m e).1 / (magnitude m e).2 ≤ m * 2 ^ e.toNat := by
    rw [magnitude]
    split_ifs with he
    · exact Nat.div_le_self _ _
    · exact (Nat.div_le_self _ _).trans (Nat.le_mul_of_pos_right m (Nat.two_pow_pos _))
  rw [truncate]
  dsimp only
  split_ifs
  · rwa [Int.natAbs_neg]
  · exact hquotient

/-- A number of the format that is an integer has at most so many digits. -/
theorem InFormat.natAbs_lt {x : Binary64} (h : InFormat x) {i : Int} (hi : x.toInt? = some i)
    {digits : Nat} (hdigits : 1024 ≤ digits) : i.natAbs < 10 ^ digits := by
  cases x with
  | nan => cases hi
  | infinite negative => cases hi
  | finite negative m e =>
    obtain ⟨hcanonical, he⟩ := h
    rw [toInt?] at hi
    dsimp only at hi
    split_ifs at hi
    obtain rfl := Option.some.inj hi
    have hexp : 53 + e.toNat ≤ digits := by
      rw [greatestExponent] at he
      omega
    calc (truncate negative m e).natAbs ≤ m * 2 ^ e.toNat := natAbs_truncate_le negative m e
      _ < 2 ^ 53 * 2 ^ e.toNat :=
        Nat.mul_lt_mul_of_pos_right hcanonical.significand (Nat.two_pow_pos _)
      _ = 2 ^ (53 + e.toNat) := (Nat.pow_add 2 53 e.toNat).symm
      _ ≤ 2 ^ digits := Nat.pow_le_pow_right two_pos hexp
      _ ≤ 10 ^ digits := Nat.pow_le_pow_left (by omega) digits

end AdSearch.Proofs.Number.Range
