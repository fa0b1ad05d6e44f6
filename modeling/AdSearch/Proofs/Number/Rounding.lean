import AdSearch.Number.Binary64
import Mathlib.Algebra.Order.Field.Power
import Mathlib.Algebra.Order.Field.Rat
import Mathlib.Data.Nat.Cast.Field
import Mathlib.Tactic.GCongr
import Mathlib.Tactic.Linarith
import Mathlib.Tactic.Positivity
import Mathlib.Tactic.Ring

/-!
# The number nearest to a ratio

The magnitudes of the format, with exponents that have no upper bound, lie on grids: from a given
exponent on they are multiples of one power of two, and the others are smaller.  So a magnitude has
one nearest number, with a tie to the even significand, and the nearest number is the rounded
multiple.  What is nearest depends on the quotient alone, and not on how it is given as a ratio.
-/

namespace AdSearch.Proofs.Number.Rounding

open AdSearch.Binary64

variable {m m' r : Nat} {e e' : Int} {q x : ℚ}

/-! ## Magnitudes -/

/-- The magnitude with a significand and an exponent. -/
def value (m : Nat) (e : Int) : ℚ := m * 2 ^ e

/-- The significand and the exponent of a number of the format, in its range or beyond. -/
structure Canonical (m : Nat) (e : Int) : Prop where
  significand : m < 2 ^ 53
  exponent : leastExponent ≤ e
  full : e = leastExponent ∨ 2 ^ 52 ≤ m

theorem two_zpow_pos (e : Int) : (0 : ℚ) < 2 ^ e := by positivity

theorem two_zpow_mul (e e' : Int) : (2 : ℚ) ^ e * 2 ^ e' = 2 ^ (e + e') :=
  (zpow_add₀ two_ne_zero e e').symm

/-- From an exponent on all magnitudes are multiples of its power of two. -/
theorem value_eq_mul (m : Nat) (h : e ≤ e') : ∃ k : Nat, value m e' = k * 2 ^ e := by
  refine ⟨m * 2 ^ (e' - e).toNat, ?_⟩
  have hexp : ((e' - e).toNat : Int) + e = e' := by omega
  rw [value, Nat.cast_mul, Nat.cast_pow, Nat.cast_ofNat, mul_assoc, ← zpow_natCast, two_zpow_mul,
    hexp]

/-- Below an exponent the magnitudes are less than the full significands at the exponent. -/
theorem Canonical.value_lt (h : Canonical m e) (hlt : e < e') : value m e < 2 ^ 52 * 2 ^ e' := by
  have hm : (m : ℚ) < 2 ^ 53 := by exact_mod_cast h.significand
  have hexp : (2 : ℚ) ^ (e + 1) ≤ 2 ^ e' := zpow_le_zpow_right₀ one_le_two hlt
  calc value m e < 2 ^ 53 * 2 ^ e := mul_lt_mul_of_pos_right hm (two_zpow_pos e)
    _ = 2 ^ 52 * 2 ^ (e + 1) := by rw [zpow_add_one₀ two_ne_zero]; ring
    _ ≤ 2 ^ 52 * 2 ^ e' := by gcongr

theorem Canonical.value_lt_value (h : Canonical m e) (h' : Canonical m' e') (hlt : e < e') :
    value m e < value m' e' := by
  have hm' : (2 : ℚ) ^ 52 ≤ m' := by
    have := h.exponent
    have := h'.full.resolve_left (by omega)
    exact_mod_cast this
  calc value m e < 2 ^ 52 * 2 ^ e' := h.value_lt hlt
    _ ≤ value m' e' := mul_le_mul_of_nonneg_right hm' (two_zpow_pos e').le

/-- A magnitude is in one way a significand and an exponent. -/
theorem Canonical.unique (h : Canonical m e) (h' : Canonical m' e')
    (heq : value m e = value m' e') : m = m' ∧ e = e' := by
  rcases lt_trichotomy e e' with hlt | rfl | hgt
  · exact absurd heq (h.value_lt_value h' hlt).ne
  · have hm : (m : ℚ) = m' := mul_right_cancel₀ (two_zpow_pos e).ne' heq
    exact ⟨by exact_mod_cast hm, rfl⟩
  · exact absurd heq (h'.value_lt_value h hgt).ne'

/-- The next magnitude is a step of the grid away. -/
theorem Canonical.add_le (h : Canonical m e) (h' : Canonical m' e')
    (hlt : value m e < value m' e') : value (m + 1) e ≤ value m' e' := by
  have he : e ≤ e' := by
    by_contra hgt
    exact absurd hlt (h'.value_lt_value h (by omega)).not_gt
  obtain ⟨k, hk⟩ := value_eq_mul m' he
  rw [hk] at hlt ⊢
  have hmk : (m : ℚ) < k := lt_of_mul_lt_mul_right hlt (two_zpow_pos e).le
  have hmk' : m + 1 ≤ k := by exact_mod_cast hmk
  have hcast : ((m + 1 : Nat) : ℚ) ≤ k := by exact_mod_cast hmk'
  exact mul_le_mul_of_nonneg_right hcast (two_zpow_pos e).le

/-- After an even significand there is the odd one with the same exponent. -/
theorem Canonical.succ (h : Canonical m e) (heven : m % 2 = 0) : Canonical (m + 1) e := by
  obtain ⟨hm, he, hfull⟩ := h
  exact ⟨by omega, he, by omega⟩

/-! ## Nearest numbers -/

/-- The number nearest to a magnitude, a tie to the even significand. -/
structure IsNearest (q : ℚ) (m : Nat) (e : Int) : Prop where
  canonical : Canonical m e
  nearest : ∀ m' e', Canonical m' e' → |q - value m e| ≤ |q - value m' e'|
  even : ∀ m' e', Canonical m' e' → value m' e' ≠ value m e →
    |q - value m' e'| = |q - value m e| → m % 2 = 0

/-- Two nearest numbers have no number between them that is nearer. -/
theorem IsNearest.not_value_lt (h : IsNearest q m e) (h' : IsNearest q m' e') :
    ¬value m e < value m' e' := by
  intro hlt
  have htie : |q - value m e| = |q - value m' e'| :=
    le_antisymm (h.nearest _ _ h'.canonical) (h'.nearest _ _ h.canonical)
  have heven := h.even _ _ h'.canonical hlt.ne' htie.symm
  have heven' := h'.even _ _ h.canonical hlt.ne htie
  have hsucc := h.canonical.succ heven
  -- Both significands are even, so the odd one after the first is strictly between.
  have hle := h.canonical.add_le h'.canonical hlt
  have hne : value (m + 1) e ≠ value m' e' := by
    intro heq
    have := (hsucc.unique h'.canonical heq).1
    omega
  have hbetween : value (m + 1) e < value m' e' := lt_of_le_of_ne hle hne
  have hstep : value m e < value (m + 1) e := by
    simp only [value, Nat.cast_add, Nat.cast_one]
    exact mul_lt_mul_of_pos_right (lt_add_one _) (two_zpow_pos e)
  have hmid : value m e + value m' e' = 2 * q := by
    rcases abs_eq_abs.mp htie with heq | heq <;> linarith
  have hnearer : |q - value (m + 1) e| < |q - value m e| := by
    rw [abs_of_nonneg (a := q - value m e) (by linarith)]
    exact abs_lt.mpr ⟨by linarith, by linarith⟩
  exact absurd (h.nearest _ _ hsucc) hnearer.not_ge

theorem IsNearest.unique (h : IsNearest q m e) (h' : IsNearest q m' e') : m = m' ∧ e = e' := by
  have heq : value m e = value m' e' := le_antisymm (not_lt.mp (h'.not_value_lt h))
    (not_lt.mp (h.not_value_lt h'))
  exact h.canonical.unique h'.canonical heq

/-! ## Rounded naturals -/

/-- The natural nearest to a magnitude, a tie to the even one. -/
structure IsRounded (x : ℚ) (r : Nat) : Prop where
  half : |x - r| ≤ 1 / 2
  even : |x - r| = 1 / 2 → r % 2 = 0

theorem IsRounded.of_lt (h : |x - r| < 1 / 2) : IsRounded x r :=
  ⟨h.le, fun heq => absurd heq h.ne⟩

theorem IsRounded.nearest (h : IsRounded x r) (k : Nat) : |x - r| ≤ |x - k| ∧
    (k ≠ r → |x - k| = |x - r| → r % 2 = 0) := by
  have hhalf := h.half
  by_cases hk : k = r
  · subst hk
    exact ⟨le_rfl, fun hne => absurd rfl hne⟩
  · have hapart : (1 : ℚ) ≤ |(k : ℚ) - r| := by
      have : (1 : Int) ≤ |(k : Int) - r| := Int.one_le_abs (by omega)
      exact_mod_cast this
    have htriangle : |(k : ℚ) - r| ≤ |x - r| + |x - k| := by
      have := abs_sub_le (k : ℚ) x r
      rw [abs_sub_comm (k : ℚ) x] at this
      linarith
    refine ⟨by linarith, fun _ htie => h.even (by linarith)⟩

theorem IsRounded.le (h : IsRounded x r) {k : Nat} (hx : x ≤ k) : r ≤ k := by
  have hhalf := (abs_le.mp h.half).1
  have hlt : (r : ℚ) < (k + 1 : Nat) := by
    rw [Nat.cast_add, Nat.cast_one]
    linarith
  exact Nat.lt_succ_iff.mp (by exact_mod_cast hlt)

theorem IsRounded.ge (h : IsRounded x r) {k : Nat} (hx : k ≤ x) : k ≤ r := by
  have hhalf := (abs_le.mp h.half).2
  have hlt : (k : ℚ) < (r + 1 : Nat) := by
    rw [Nat.cast_add, Nat.cast_one]
    linarith
  exact Nat.lt_succ_iff.mp (by exact_mod_cast hlt)

/-- The part of a quotient above its floor compares with a half as the remainder does with half the
divisor. -/
theorem exists_fraction (num : Nat) {den : Nat} (hden : 0 < den) :
    ∃ t : ℚ, (num / den : ℚ) = (num / den : Nat) + t ∧ 0 ≤ t ∧ t < 1 ∧
      (2 * (num % den) < den ↔ t < 1 / 2) ∧ (den < 2 * (num % den) ↔ 1 / 2 < t) := by
  have hden' : (0 : ℚ) < den := by exact_mod_cast hden
  have hnum : (num : ℚ) = den * (num / den : Nat) + (num % den : Nat) := by
    exact_mod_cast (Nat.div_add_mod num den).symm
  have hlt : num % den < den := Nat.mod_lt _ hden
  refine ⟨(num % den : Nat) / den, ?_, by positivity, ?_, ?_, ?_⟩
  · rw [div_eq_iff hden'.ne', add_mul, div_mul_cancel₀ _ hden'.ne', hnum, mul_comm]
  · rw [div_lt_one₀ hden']
    exact_mod_cast hlt
  · rw [div_lt_div_iff₀ hden' two_pos, one_mul, mul_comm]
    exact_mod_cast Iff.rfl
  · rw [div_lt_div_iff₀ two_pos hden', one_mul, mul_comm _ (2 : ℚ)]
    exact_mod_cast Iff.rfl

theorem isRounded_roundQuotient (num : Nat) {den : Nat} (hden : 0 < den) :
    IsRounded (num / den) (roundQuotient num den) := by
  obtain ⟨t, hquotient, hpos, hlt, hlow, hhigh⟩ := exists_fraction num hden
  rw [hquotient, roundQuotient]
  generalize num / den = k
  split_ifs with h h'
  · have hbelow := hlow.mp h
    exact .of_lt (abs_lt.mpr ⟨by linarith, by linarith⟩)
  · have habove := hhigh.mp h'
    refine .of_lt ?_
    rw [Nat.cast_add, Nat.cast_one]
    exact abs_lt.mpr ⟨by linarith, by linarith⟩
  · have hmid : t = 1 / 2 := le_antisymm (not_lt.mp (mt hhigh.mpr h')) (not_lt.mp (mt hlow.mpr h))
    refine ⟨?_, fun _ => by omega⟩
    rw [hmid, Nat.cast_add]
    rcases Nat.mod_two_eq_zero_or_one k with hk | hk
    all_goals
      rw [hk, abs_le]
      push_cast
      constructor <;> linarith

/-! ## Rounded multiples -/

theorem abs_sub_value (q : ℚ) (k : Nat) (e : Int) :
    |q - value k e| = |q / 2 ^ e - k| * 2 ^ e := by
  have hpos := two_zpow_pos e
  rw [← abs_of_pos hpos, ← abs_mul, abs_of_pos hpos, sub_mul, div_mul_cancel₀ _ hpos.ne', value]

/-- No number is nearer than the rounded multiple: from the exponent on they are multiples as well,
and below it they are less than the first full significand. -/
theorem IsRounded.nearest_multiple (h : IsRounded (q / 2 ^ e) r)
    (hfull : e = leastExponent ∨ 2 ^ 52 ≤ q / 2 ^ e) (h' : Canonical m' e') :
    |q - value r e| ≤ |q - value m' e'| ∧
      (value m' e' ≠ value r e → |q - value m' e'| = |q - value r e| → r % 2 = 0) := by
  have hpos := two_zpow_pos e
  rcases le_or_gt e e' with hle | hlt
  · obtain ⟨k, hk⟩ := value_eq_mul m' hle
    obtain ⟨hnearest, heven⟩ := h.nearest k
    rw [hk, ← value, abs_sub_value, abs_sub_value]
    refine ⟨mul_le_mul_of_nonneg_right hnearest hpos.le, fun hne htie => ?_⟩
    exact heven (fun hkr => hne (by rw [hkr])) (mul_right_cancel₀ hpos.ne' htie)
  · have hsize : (2 : ℚ) ^ 52 ≤ q / 2 ^ e := by
      have := h'.exponent
      exact hfull.resolve_left (by omega)
    have hbelow := h'.value_lt hlt
    have hq : (2 : ℚ) ^ 52 * 2 ^ e ≤ q := (le_div_iff₀ hpos).mp hsize
    have hfirst : |q - value r e| ≤ |q - value (2 ^ 52) e| := by
      rw [abs_sub_value, abs_sub_value]
      exact mul_le_mul_of_nonneg_right (h.nearest _).1 hpos.le
    have hvalue : value (2 ^ 52) e = 2 ^ 52 * 2 ^ e := by rw [value, Nat.cast_pow, Nat.cast_ofNat]
    have hfarther : |q - value r e| < |q - value m' e'| := by
      calc |q - value r e| ≤ |q - value (2 ^ 52) e| := hfirst
        _ = q - value (2 ^ 52) e := abs_of_nonneg (by linarith)
        _ < q - value m' e' := by linarith
        _ ≤ |q - value m' e'| := le_abs_self _
    exact ⟨hfarther.le, fun _ htie => absurd htie hfarther.ne'⟩

/-- The nearest number is the rounded multiple, and the first one of the next exponent if that is
needed to hold it. -/
theorem isNearest_of_isRounded (h : IsRounded (q / 2 ^ e) r) (he : leastExponent ≤ e)
    (hlt : q / 2 ^ e < 2 ^ 53) (hfull : e = leastExponent ∨ 2 ^ 52 ≤ q / 2 ^ e) :
    if r < 2 ^ 53 then IsNearest q r e else IsNearest q (2 ^ 52) (e + 1) := by
  have hle : r ≤ 2 ^ 53 := h.le (by exact_mod_cast hlt.le)
  split_ifs with hr
  · have hcanonical : Canonical r e :=
      ⟨hr, he, hfull.imp_right fun hx => h.ge (by exact_mod_cast hx)⟩
    exact ⟨hcanonical, fun _ _ h' => (h.nearest_multiple hfull h').1,
      fun _ _ h' => (h.nearest_multiple hfull h').2⟩
  · obtain rfl : r = 2 ^ 53 := by omega
    have hvalue : value (2 ^ 52) (e + 1) = value (2 ^ 53) e := by
      rw [value, value, zpow_add_one₀ two_ne_zero]
      push_cast
      ring
    have hcanonical : Canonical (2 ^ 52) (e + 1) := ⟨by decide, by omega, .inr le_rfl⟩
    refine ⟨hcanonical, fun _ _ h' => ?_, fun _ _ _ _ _ => by decide⟩
    rw [hvalue]
    exact (h.nearest_multiple hfull h').1

/-! ## Ratios -/

theorem scaleDown_spec (num : Nat) {den : Nat} (hden : 0 < den) (e : Int) :
    0 < (scaleDown num den e).2 ∧
      ((scaleDown num den e).1 : ℚ) / (scaleDown num den e).2 = num / den / 2 ^ e := by
  have hpow : ∀ n : Nat, ((Nat.pow 2 n : Nat) : ℚ) = 2 ^ (n : Int) := by
    intro n
    rw [Nat.pow_eq, Nat.cast_pow, Nat.cast_ofNat, zpow_natCast]
  rw [scaleDown]
  split_ifs with he
  · refine ⟨Nat.mul_pos hden (Nat.two_pow_pos _), ?_⟩
    rw [Nat.cast_mul, hpow, Int.toNat_of_nonneg he, div_div]
  · refine ⟨hden, ?_⟩
    rw [Nat.cast_mul, hpow, Int.toNat_of_nonneg (by omega), zpow_neg]
    rw [mul_div_right_comm, div_eq_mul_inv (_ / _) (_ ^ _)]

theorem log2_bounds {n : Nat} (hn : 0 < n) :
    (2 : ℚ) ^ (n.log2 : Int) ≤ n ∧ (n : ℚ) < 2 ^ (n.log2 + 1 : Int) := by
  have hlow : 2 ^ n.log2 ≤ n := Nat.log2_self_le hn.ne'
  have hhigh : n < 2 ^ (n.log2 + 1) := Nat.lt_log2_self
  exact ⟨by exact_mod_cast hlow, by exact_mod_cast hhigh⟩

theorem floorLog2_spec {num den : Nat} (hnum : 0 < num) (hden : 0 < den) :
    (2 : ℚ) ^ floorLog2 num den ≤ num / den ∧ (num / den : ℚ) < 2 ^ (floorLog2 num den + 1) := by
  have hden' : (0 : ℚ) < den := by exact_mod_cast hden
  obtain ⟨hnumLow, hnumHigh⟩ := log2_bounds hnum
  obtain ⟨hdenLow, hdenHigh⟩ := log2_bounds hden
  obtain ⟨e, he⟩ : ∃ e : Int, e = num.log2 - den.log2 := ⟨_, rfl⟩
  have hlow : (2 : ℚ) ^ (e - 1) ≤ num / den := by
    rw [le_div_iff₀ hden']
    calc (2 : ℚ) ^ (e - 1) * den ≤ 2 ^ (e - 1) * 2 ^ (den.log2 + 1 : Int) := by gcongr
      _ = 2 ^ (num.log2 : Int) := by rw [two_zpow_mul, he]; congr 1; omega
      _ ≤ num := hnumLow
  have hhigh : (num / den : ℚ) < 2 ^ (e + 1) := by
    rw [div_lt_iff₀ hden']
    calc (num : ℚ) < 2 ^ (num.log2 + 1 : Int) := hnumHigh
      _ = 2 ^ (e + 1) * 2 ^ (den.log2 : Int) := by rw [two_zpow_mul, he]; congr 1; omega
      _ ≤ 2 ^ (e + 1) * den := by gcongr
  obtain ⟨hpos, hscale⟩ := scaleDown_spec num hden e
  have hpos' : (0 : ℚ) < (scaleDown num den e).2 := by exact_mod_cast hpos
  have htest : (scaleDown num den e).2 ≤ (scaleDown num den e).1 ↔ (2 : ℚ) ^ e ≤ num / den := by
    rw [← one_le_div₀ (two_zpow_pos e), ← hscale, one_le_div₀ hpos', Nat.cast_le]
  rw [floorLog2, ← he]
  dsimp only
  split_ifs with h
  · exact ⟨htest.mp h, hhigh⟩
  · rw [sub_add_cancel]
    exact ⟨hlow, not_le.mp (mt htest.mpr h)⟩

theorem isNearest_zero : IsNearest 0 0 leastExponent where
  canonical := ⟨by decide, le_rfl, .inl rfl⟩
  nearest := by
    intro m' e' _
    rw [value, Nat.cast_zero, zero_mul, sub_zero, abs_zero]
    exact abs_nonneg _
  even := fun _ _ _ _ _ => rfl

/-- Scaled down by its size a magnitude has a full significand before its fraction, unless it is
among the finest. -/
theorem scaled_bounds {f : Int} (hlow : (2 : ℚ) ^ f ≤ q) (hhigh : q < 2 ^ (f + 1))
    (he : e = max (f - 52) leastExponent) :
    q / 2 ^ e < 2 ^ 53 ∧ (e = leastExponent ∨ 2 ^ 52 ≤ q / 2 ^ e) := by
  rw [div_lt_iff₀ (two_zpow_pos e), le_div_iff₀ (two_zpow_pos e)]
  constructor
  · calc q < 2 ^ (f + 1) := hhigh
      _ ≤ 2 ^ (53 + e) := zpow_le_zpow_right₀ one_le_two (by omega)
      _ = 2 ^ 53 * 2 ^ e := (two_zpow_mul 53 e).symm
  · rcases max_choice (f - 52) leastExponent with hmax | hmax
    · have hf : 52 + e = f := by omega
      right
      calc (2 : ℚ) ^ 52 * 2 ^ e = 2 ^ (52 + e) := two_zpow_mul 52 e
        _ ≤ q := by rw [hf]; exact hlow
    · exact .inl (he.trans hmax)

theorem ofLowestTerms_spec (negative : Bool) {num den : Nat} (hnum : 0 < num) (hden : 0 < den) :
    ∃ m e, IsNearest (num / den) m e ∧ ofLowestTerms negative num den =
      if e ≤ greatestExponent then some (finite negative m e) else none := by
  obtain ⟨hlow, hhigh⟩ := floorLog2_spec hnum hden
  obtain ⟨e, he⟩ : ∃ e, e = max (floorLog2 num den - 52) leastExponent := ⟨_, rfl⟩
  obtain ⟨hlt, hfull⟩ := scaled_bounds hlow hhigh he
  obtain ⟨hd, hscale⟩ := scaleDown_spec num hden e
  have hrounded := isRounded_roundQuotient (scaleDown num den e).1 hd
  rw [hscale] at hrounded
  have hnearest := isNearest_of_isRounded hrounded (by omega) hlt hfull
  rw [ofLowestTerms]
  dsimp only
  rw [← he, Nat.pow_eq, Nat.pow_eq]
  generalize roundQuotient (scaleDown num den e).1 (scaleDown num den e).2 = r at hnearest ⊢
  by_cases hr : r < 2 ^ 53
  · rw [if_pos hr] at hnearest ⊢
    exact ⟨_, _, hnearest, rfl⟩
  · rw [if_neg hr] at hnearest ⊢
    exact ⟨_, _, hnearest, rfl⟩

/-- Division gives the number nearest to the quotient, or nothing if that is beyond the range. -/
theorem ofRatio_spec (negative : Bool) (num : Nat) {den : Nat} (hden : 0 < den) :
    ∃ m e, IsNearest (num / den) m e ∧ ofRatio negative num den =
      if e ≤ greatestExponent then some (finite negative m e) else none := by
  have hg : 0 < num.gcd den := Nat.gcd_pos_of_pos_right num hden
  have hquotient : ((num / num.gcd den : Nat) / (den / num.gcd den : Nat) : ℚ) = num / den := by
    have hg' : (num.gcd den : ℚ) ≠ 0 := by exact_mod_cast hg.ne'
    rw [Nat.cast_div (Nat.gcd_dvd_left num den) hg', Nat.cast_div (Nat.gcd_dvd_right num den) hg',
      div_div_div_cancel_right₀ hg']
  have hden' : 0 < den / num.gcd den := Nat.div_pos (Nat.gcd_le_right num hden) hg
  rw [ofRatio]
  split_ifs with hzero
  · rw [hzero, Nat.cast_zero, zero_div] at hquotient
    rw [← hquotient]
    exact ⟨0, leastExponent, isNearest_zero, rfl⟩
  · rw [← hquotient]
    exact ofLowestTerms_spec negative (Nat.pos_of_ne_zero hzero) hden'

end AdSearch.Proofs.Number.Rounding
