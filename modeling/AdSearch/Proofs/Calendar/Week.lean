import AdSearch.Calendar.Literal
import AdSearch.Proofs.Calendar.Ordinal

/-!
# Weeks and their days

A week belongs to the year in which its Thursday lies, and its number is how many Thursdays of that
year there are up to its own.  Days are read the other way round, by counting from the Monday of
the first week of the year.  The two agree for all days, also where the year of the week is not the
year of the day, and in years of 53 weeks.
-/

namespace AdSearch

/-- The year of a week, the number of the week and the day of the week, from Monday on, the last
two counted from one. -/
structure WeekDate where
  year : Nat
  week : Nat
  weekday : Nat
deriving DecidableEq

/-- A day by its week. -/
def Date.weekDate (d : Date) : WeekDate :=
  let (year, dayOfYear) := Calendar.splitYear (d.ordinal - d.weekday + 2)
  ⟨year, dayOfYear / 7 + 1, d.weekday + 1⟩

namespace Proofs.Calendar.Week

open AdSearch.Calendar AdSearch.Proofs.Calendar.Ordinal

theorem weekday_lt_ordinal (d : Date) : d.weekday < d.ordinal := by
  have hpos := ordinal_pos d
  rw [Date.weekday]
  omega

/-- The Thursday of the last week is a day of the calendar. -/
theorem thursday_le (d : Date) : d.ordinal + 3 ≤ lastOrdinal + d.weekday := by
  have hle := ordinal_le d
  rw [lastOrdinal] at hle ⊢
  rw [Date.weekday]
  omega

/-- The Thursday of the week of a day, by its place in the year of the week. -/
theorem exists_thursday (d : Date) :
    ∃ dayOfYear, d.weekDate = ⟨d.weekDate.year, dayOfYear / 7 + 1, d.weekday + 1⟩ ∧
      1 ≤ d.weekDate.year ∧ d.weekDate.year ≤ 9999 ∧ dayOfYear < yearLength d.weekDate.year ∧
      daysBeforeYear d.weekDate.year + dayOfYear + d.weekday = d.ordinal + 2 := by
  obtain ⟨hpos, hday, hless⟩ := splitYear_spec (d.ordinal - d.weekday + 2)
  have hmonday := weekday_lt_ordinal d
  have hthursday := thursday_le d
  refine ⟨(splitYear (d.ordinal - d.weekday + 2)).2, rfl, hpos, ?_, hless, ?_⟩
  · change (splitYear (d.ordinal - d.weekday + 2)).1 ≤ 9999
    by_contra hlate
    have hmono : daysBeforeYear 10000 ≤ daysBeforeYear (splitYear (d.ordinal - d.weekday + 2)).1 :=
      monotone_daysBeforeYear (by omega)
    have hlast : daysBeforeYear 10000 = lastOrdinal := by decide
    omega
  · change daysBeforeYear (splitYear (d.ordinal - d.weekday + 2)).1 + _ + _ = _
    omega

/-- The first week starts on a Monday, and its Thursday is among the first seven days. -/
theorem firstMonday_spec (year : Nat) : Date.firstMonday year % 7 = 1 ∧
    daysBeforeYear year ≤ Date.firstMonday year + 2 ∧
      Date.firstMonday year + 2 < daysBeforeYear year + 7 := by
  rw [Date.firstMonday]
  split
  · omega
  · omega

/-- A Monday before the first week of the next year starts a week of the year. -/
theorem week_le_weekCount {year week : Nat}
    (h : Date.firstMonday year + 7 * week < Date.firstMonday (year + 1)) :
    week + 1 ≤ Date.weekCount year := by
  have hmonday := (firstMonday_spec year).1
  have hmonday' := (firstMonday_spec (year + 1)).1
  rw [Date.weekCount]
  omega

/-- The Thursday of a week of the year determines the Monday, counted from the first week. -/
theorem monday_of_thursday {year dayOfYear : Nat} {monday : Int} (hmonday : monday % 7 = 1)
    (hthursday : (daysBeforeYear year + dayOfYear : Nat) = monday + 2) :
    monday = Date.firstMonday year + 7 * (dayOfYear / 7 : Nat) := by
  obtain ⟨hfirst, hlow, hhigh⟩ := firstMonday_spec year
  omega

/-- A day is found by its week. -/
theorem ofWeek?_weekDate (d : Date) :
    Date.ofWeek? d.weekDate.year d.weekDate.week d.weekDate.weekday = some d := by
  obtain ⟨dayOfYear, hweek, hpos, hle, hless, hthursday⟩ := exists_thursday d
  have hnext := daysBeforeYear_succ hpos
  generalize d.weekDate.year = year at *
  have hmondayMod : ((d.ordinal : Int) - d.weekday) % 7 = 1 := by
    rw [Date.weekday]
    omega
  have hmonday : (d.ordinal : Int) - d.weekday =
      Date.firstMonday year + 7 * (dayOfYear / 7 : Nat) :=
    monday_of_thursday hmondayMod (by omega)
  have hcount : dayOfYear / 7 + 1 ≤ Date.weekCount year := by
    have hlow := (firstMonday_spec (year + 1)).2.1
    exact week_le_weekCount (by omega)
  have hweekday : d.weekday < 7 := Nat.mod_lt _ (by omega)
  rw [hweek, Date.ofWeek?, if_pos (by dsimp only; omega), ofOrdinal?_eq_some]
  dsimp only
  omega

/-- A year of 53 weeks ends with days of the next year. -/
example : Date.weekDate ⟨2021, 1, 3, by decide, by decide, by decide, by decide⟩ =
    ⟨2020, 53, 7⟩ := by decide

/-- The last days of a year may lie in the first week of the next. -/
example : Date.weekDate ⟨2024, 12, 30, by decide, by decide, by decide, by decide⟩ =
    ⟨2025, 1, 1⟩ := by decide

end Proofs.Calendar.Week

end AdSearch
