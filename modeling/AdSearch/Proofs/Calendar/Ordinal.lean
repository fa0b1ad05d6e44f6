import AdSearch.Calendar.Window
import Mathlib.Algebra.BigOperators.Group.List.Basic
import Mathlib.Algebra.GroupWithZero.Nat
import Mathlib.Algebra.Order.Monoid.Canonical.Defs
import Mathlib.Data.List.GetD
import Mathlib.Order.Monotone.Basic
import Mathlib.Tactic.Common

/-!
# Days and their numbers

The number of a day is the count of the days up to it.  Days are ordered by year, month and day, and
so are their numbers; every number from 1 to the number of the last day belongs to one day.
-/

namespace AdSearch.Proofs.Calendar.Ordinal

open AdSearch.Calendar

/-! ## Years -/

def yearLength (year : Nat) : Nat := if isLeap year then 366 else 365

theorem isLeap_iff (year : Nat) :
    isLeap year = true ↔ year % 4 = 0 ∧ (year % 100 ≠ 0 ∨ year % 400 = 0) := by
  simp [isLeap]

/-- A year in its cycle of 400 years, which is made of cycles of 100 years and of 4 years. -/
theorem daysBeforeYear_cycles {a b c d : Nat} (hb : b ≤ 3) (hc : c ≤ 24) (hd : d ≤ 3) :
    daysBeforeYear (400 * a + 100 * b + 4 * c + d + 1) =
      146097 * a + 36524 * b + 1461 * c + 365 * d := by
  have h4 : (400 * a + 100 * b + 4 * c + d) / 4 = 100 * a + 25 * b + c := by omega
  have h100 : (400 * a + 100 * b + 4 * c + d) / 100 = 4 * a + b := by omega
  have h400 : (400 * a + 100 * b + 4 * c + d) / 400 = a := by omega
  rw [daysBeforeYear, Nat.add_sub_cancel, h4, h100, h400]
  omega

/-- The last year of four is leap, unless it is the last of a hundred and not of four hundred. -/
theorem yearLength_cycles {a b c d : Nat} (hb : b ≤ 3) (hc : c ≤ 24) (hd : d ≤ 3) :
    yearLength (400 * a + 100 * b + 4 * c + d + 1) =
      if d = 3 ∧ (c = 24 → b = 3) then 366 else 365 := by
  have h4 : (400 * a + 100 * b + 4 * c + d + 1) % 4 = 0 ↔ d = 3 := by omega
  have h100 : (400 * a + 100 * b + 4 * c + d + 1) % 100 = 0 ↔ d = 3 ∧ c = 24 := by omega
  have h400 : (400 * a + 100 * b + 4 * c + d + 1) % 400 = 0 ↔ d = 3 ∧ c = 24 ∧ b = 3 := by omega
  have hiff : isLeap (400 * a + 100 * b + 4 * c + d + 1) = true ↔ d = 3 ∧ (c = 24 → b = 3) := by
    rw [isLeap_iff, Ne, h4, h100, h400]
    omega
  simp only [yearLength, hiff]

/-- The places of a year in the cycles. -/
theorem exists_cycles {year : Nat} (hpos : 1 ≤ year) :
    ∃ a b c d, b ≤ 3 ∧ c ≤ 24 ∧ d ≤ 3 ∧ year = 400 * a + 100 * b + 4 * c + d + 1 :=
  ⟨(year - 1) / 400, (year - 1) % 400 / 100, (year - 1) % 100 / 4, (year - 1) % 4, by omega⟩

theorem daysBeforeYear_succ {year : Nat} (hpos : 1 ≤ year) :
    daysBeforeYear (year + 1) = daysBeforeYear year + yearLength year := by
  obtain ⟨a, b, c, d, hb, hc, hd, rfl⟩ := exists_cycles hpos
  obtain ⟨a', b', c', d', hb', hc', hd', hnext⟩ :=
    exists_cycles (show 1 ≤ 400 * a + 100 * b + 4 * c + d + 1 + 1 by omega)
  rw [yearLength_cycles hb hc hd, daysBeforeYear_cycles hb hc hd, hnext,
    daysBeforeYear_cycles hb' hc' hd']
  split <;> omega

theorem monotone_daysBeforeYear : Monotone daysBeforeYear := by
  apply monotone_nat_of_le_succ
  intro year
  rcases Nat.eq_zero_or_pos year with rfl | hpos
  · exact Nat.le_refl 0
  · rw [daysBeforeYear_succ hpos]
    exact Nat.le_add_right _ _

/-! ## Months -/

theorem month_mem {year month day : Nat} (hpos : 1 ≤ day) (hle : day ≤ monthLength year month) :
    1 ≤ month ∧ month ≤ 12 := by
  unfold monthLength at hle
  split at hle
  · omega
  · refine ⟨by omega, ?_⟩
    by_contra hmonth
    have hlength : (monthLengths (isLeap year)).length ≤ month - 1 := by
      simp only [monthLengths, List.length_cons, List.length_nil]
      omega
    rw [List.getD_eq_default _ _ hlength] at hle
    omega

theorem daysBeforeMonth_succ (year : Nat) {month : Nat} (hpos : 1 ≤ month) (hle : month ≤ 12) :
    daysBeforeMonth year (month + 1) = daysBeforeMonth year month + monthLength year month := by
  have hlt : month - 1 < (monthLengths (isLeap year)).length := by
    simp only [monthLengths, List.length_cons]
    omega
  have hmonth : month + 1 - 1 = month - 1 + 1 := by omega
  change ((monthLengths (isLeap year)).take (month + 1 - 1)).sum =
    ((monthLengths (isLeap year)).take (month - 1)).sum + _
  rw [hmonth, List.take_succ_eq_append_getElem hlt, List.sum_append, List.sum_singleton,
    monthLength, if_neg (by omega), List.getD_eq_getElem _ _ hlt]

theorem monotone_daysBeforeMonth (year : Nat) : Monotone (daysBeforeMonth year) := by
  apply monotone_nat_of_le_succ
  intro month
  rcases Nat.eq_zero_or_pos month with rfl | hpos
  · exact Nat.le_refl 0
  · have hmonth : month + 1 - 1 = month - 1 + 1 := by omega
    change ((monthLengths (isLeap year)).take (month - 1)).sum ≤
      ((monthLengths (isLeap year)).take (month + 1 - 1)).sum
    rw [hmonth, List.take_add_one, List.sum_append]
    exact Nat.le_add_right _ _

theorem daysBeforeMonth_thirteen (year : Nat) : daysBeforeMonth year 13 = yearLength year := by
  unfold daysBeforeMonth yearLength
  cases isLeap year <;> rfl

/-! ## The order of days -/

/-- A day comes before another one: years are compared first, then months, then days. -/
def Before (a b : Date) : Prop :=
  a.year < b.year ∨ a.year = b.year ∧ (a.month < b.month ∨ a.month = b.month ∧ a.day < b.day)

theorem eq_or_before (a b : Date) : a = b ∨ Before a b ∨ Before b a := by
  by_cases h : a.year = b.year ∧ a.month = b.month ∧ a.day = b.day
  · left
    cases a
    cases b
    simp only at h
    obtain ⟨rfl, rfl, rfl⟩ := h
    rfl
  · unfold Before
    omega

variable (d : Date)

theorem month_pos : 1 ≤ d.month := (month_mem d.day_pos d.day_le).1

theorem month_le : d.month ≤ 12 := (month_mem d.day_pos d.day_le).2

/-- A day lies in its year. -/
theorem ordinal_mem_year :
    daysBeforeYear d.year < d.ordinal ∧ d.ordinal ≤ daysBeforeYear (d.year + 1) := by
  have hmonth := daysBeforeMonth_succ d.year (month_pos d) (month_le d)
  have hyear : daysBeforeMonth d.year (d.month + 1) ≤ daysBeforeMonth d.year 13 :=
    monotone_daysBeforeMonth d.year (by have := month_le d; omega)
  have hpos := d.day_pos
  have hle := d.day_le
  rw [daysBeforeMonth_thirteen] at hyear
  rw [daysBeforeYear_succ d.year_pos, Date.ordinal]
  omega

theorem ordinal_pos : 1 ≤ d.ordinal := by
  have h := (ordinal_mem_year d).1
  omega

/-- The number of the last day of all. -/
def lastOrdinal : Nat := 3652059

theorem ordinal_le : d.ordinal ≤ lastOrdinal := by
  have h := (ordinal_mem_year d).2
  have hlast : daysBeforeYear (d.year + 1) ≤ daysBeforeYear 10000 :=
    monotone_daysBeforeYear (by have := d.year_le; omega)
  exact Nat.le_trans h hlast

variable {d} {a b : Date}

theorem ordinal_lt_of_before (h : Before a b) : a.ordinal < b.ordinal := by
  rcases h with hyear | ⟨hyear, hmonth | ⟨hmonth, hday⟩⟩
  · have ha := (ordinal_mem_year a).2
    have hb := (ordinal_mem_year b).1
    have hmono : daysBeforeYear (a.year + 1) ≤ daysBeforeYear b.year :=
      monotone_daysBeforeYear hyear
    omega
  · have hsucc := daysBeforeMonth_succ a.year (month_pos a) (month_le a)
    have hmono : daysBeforeMonth a.year (a.month + 1) ≤ daysBeforeMonth a.year b.month :=
      monotone_daysBeforeMonth a.year hmonth
    have ha := a.day_le
    have hb := b.day_pos
    rw [Date.ordinal, Date.ordinal, ← hyear]
    omega
  · rw [Date.ordinal, Date.ordinal, hyear, hmonth]
    omega

/-- Days come in the order of their numbers. -/
theorem before_iff : Before a b ↔ a.ordinal < b.ordinal := by
  constructor
  · exact ordinal_lt_of_before
  · intro h
    rcases eq_or_before a b with rfl | hbefore | hbefore
    · omega
    · exact hbefore
    · have := ordinal_lt_of_before hbefore
      omega

theorem ordinal_injective (h : a.ordinal = b.ordinal) : a = b := by
  rcases eq_or_before a b with heq | hbefore | hbefore
  · exact heq
  · have := ordinal_lt_of_before hbefore
    omega
  · have := ordinal_lt_of_before hbefore
    omega

/-! ## Days by number -/

/-- A length goes into the days at most three times; days are left over for a fourth only if the
last time is longer. -/
theorem thrice_spec (day : Nat) {length : Nat} (hpos : 0 < length) :
    min (day / length) 3 ≤ 3 ∧ min (day / length) 3 * length ≤ day ∧
      (min (day / length) 3 < 3 → day < (min (day / length) 3 + 1) * length) := by
  refine ⟨by omega, ?_, fun hless => ?_⟩
  · exact (Nat.mul_le_mul_right length (by omega)).trans (Nat.div_mul_le_self day length)
  · rw [Nat.min_eq_left (by omega)]
    exact Nat.lt_mul_of_div_lt (Nat.lt_succ_self _) hpos

theorem splitYear_spec (day : Nat) :
    1 ≤ (splitYear day).1 ∧ daysBeforeYear (splitYear day).1 + (splitYear day).2 = day ∧
      (splitYear day).2 < yearLength (splitYear day).1 := by
  simp only [splitYear]
  have hday := Nat.div_add_mod day 146097
  have hlt := Nat.mod_lt day (show 0 < 146097 by omega)
  generalize day / 146097 = a, day % 146097 = rest at *
  obtain ⟨hb, hbrest, hbless⟩ := thrice_spec rest (show 0 < 36524 by omega)
  generalize min (rest / 36524) 3 = b at *
  have hcrest := Nat.div_add_mod (rest - b * 36524) 1461
  have hcless := Nat.mod_lt (rest - b * 36524) (show 0 < 1461 by omega)
  generalize (rest - b * 36524) / 1461 = c, (rest - b * 36524) % 1461 = rest' at *
  obtain ⟨hd, hdrest, hdless⟩ := thrice_spec rest' (show 0 < 365 by omega)
  generalize min (rest' / 365) 3 = d at *
  have hc : c ≤ 24 := by omega
  rw [daysBeforeYear_cycles hb hc hd, yearLength_cycles hb hc hd]
  refine ⟨by omega, by omega, ?_⟩
  split <;> omega

theorem splitDay_spec {lengths : List Nat} {day : Nat} (h : day < lengths.sum) :
    ((lengths.take (splitDay lengths day).1).sum + (splitDay lengths day).2 = day) ∧
      (splitDay lengths day).2 < lengths.getD (splitDay lengths day).1 0 := by
  induction lengths generalizing day with
  | nil => simp at h
  | cons length lengths ih =>
    rw [List.sum_cons] at h
    rw [splitDay]
    split
    · rename_i hday
      simpa using hday
    · rename_i hday
      obtain ⟨hsum, hrest⟩ := ih (show day - length < lengths.sum by omega)
      refine ⟨?_, by simpa using hrest⟩
      simp only [List.take_succ_cons, List.sum_cons]
      omega

theorem sum_monthLengths (year : Nat) : (monthLengths (isLeap year)).sum = yearLength year := by
  unfold yearLength
  cases isLeap year <;> rfl

/-- The fields that belong to a number, which may lie beyond the last year. -/
theorem ofOrdinal?_eq_ofFields? {n : Int} (hn : 1 ≤ n) :
    ∃ year month day, Date.ofOrdinal? n = Date.ofFields? year month day ∧ 1 ≤ year ∧ 1 ≤ day ∧
      day ≤ monthLength year month ∧
      ((daysBeforeYear year + daysBeforeMonth year month + day : Nat) : Int) = n := by
  obtain ⟨hyear, hday, hless⟩ := splitYear_spec (n - 1).toNat
  rw [← sum_monthLengths] at hless
  obtain ⟨hmonth, hrest⟩ := splitDay_spec hless
  refine ⟨_, _, _, by rw [Date.ofOrdinal?, if_neg (by omega)], hyear, by omega, ?_, ?_⟩
  · rw [monthLength, if_neg (by omega), Nat.add_sub_cancel]
    exact hrest
  · change ((_ + (List.take _ _).sum + _ : Nat) : Int) = n
    rw [Nat.add_sub_cancel]
    omega

theorem ofFields?_eq_some {year month day : Nat} {d : Date}
    (h : Date.ofFields? year month day = some d) :
    d.year = year ∧ d.month = month ∧ d.day = day := by
  unfold Date.ofFields? at h
  split at h
  · obtain rfl := Option.some.inj h
    exact ⟨rfl, rfl, rfl⟩
  · cases h

/-- There is a day for every number from the first to the last. -/
theorem exists_ordinal {n : Nat} (hpos : 1 ≤ n) (hle : n ≤ lastOrdinal) :
    ∃ d : Date, Date.ofOrdinal? n = some d ∧ d.ordinal = n := by
  obtain ⟨year, month, day, heq, hyear, hday, hmonth, hn⟩ :=
    ofOrdinal?_eq_ofFields? (n := n) (by omega)
  have hlast : year ≤ 9999 := by
    by_contra hlate
    have hmono : daysBeforeYear 10000 ≤ daysBeforeYear year :=
      monotone_daysBeforeYear (by omega)
    have htenThousand : daysBeforeYear 10000 = lastOrdinal := by decide
    omega
  rw [Date.ofFields?, dif_pos ⟨hyear, hlast, hday, hmonth⟩] at heq
  exact ⟨_, heq, Int.ofNat_inj.mp hn⟩

/-- The day by a number is the day with this number. -/
theorem ofOrdinal?_eq_some {n : Int} {d : Date} :
    Date.ofOrdinal? n = some d ↔ (d.ordinal : Int) = n := by
  constructor
  · intro h
    have hn : 1 ≤ n := by
      by_contra hn
      rw [Date.ofOrdinal?, if_pos (by omega)] at h
      cases h
    obtain ⟨year, month, day, heq, -, -, -, hfields⟩ := ofOrdinal?_eq_ofFields? hn
    rw [heq] at h
    obtain ⟨rfl, rfl, rfl⟩ := ofFields?_eq_some h
    exact hfields
  · rintro rfl
    obtain ⟨d', hd', hordinal⟩ := exists_ordinal (ordinal_pos d) (ordinal_le d)
    rw [hd', ordinal_injective hordinal]

theorem addDays?_eq_some {k : Int} {d d' : Date} :
    d.addDays? k = some d' ↔ (d'.ordinal : Int) = d.ordinal + k :=
  ofOrdinal?_eq_some

end AdSearch.Proofs.Calendar.Ordinal
