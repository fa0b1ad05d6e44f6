/-!
# Calendar dates

Dates of the Gregorian calendar, extended backwards, from the year 1 to the year 9999.  Days are
counted from `0001-01-01`, which is day 1; adding days goes through that count.
-/

namespace AdSearch

namespace Calendar

/-- Whether a year has 366 days. -/
def isLeap (year : Nat) : Bool := year % 4 == 0 && (year % 100 != 0 || year % 400 == 0)

/-- The lengths of the months of a year. -/
def monthLengths (leap : Bool) : List Nat :=
  [31, if leap then 29 else 28, 31, 30, 31, 30, 31, 31, 30, 31, 30, 31]

/-- The length of a month; a number that is no month has length zero. -/
def monthLength (year month : Nat) : Nat :=
  if month = 0 then 0 else (monthLengths (isLeap year)).getD (month - 1) 0

/-- The days in all years before a year. -/
def daysBeforeYear (year : Nat) : Nat :=
  let y := year - 1
  y * 365 + y / 4 - y / 100 + y / 400

/-- The days of a year before a month. -/
def daysBeforeMonth (year month : Nat) : Nat :=
  ((monthLengths (isLeap year)).take (month - 1)).foldr (· + ·) 0

/-- The month of a day of the year, both counted from zero, and the day left over. -/
def splitDay : List Nat → Nat → Nat × Nat
  | [], day => (0, day)
  | length :: lengths, day =>
    if day < length then (0, day)
    else
      let (month, rest) := splitDay lengths (day - length)
      (month + 1, rest)

/-- The year of a day counted from zero, and the day of that year counted from zero. -/
def splitYear (day : Nat) : Nat × Nat :=
  let n400 := day / 146097
  let d400 := day % 146097
  let n100 := min (d400 / 36524) 3
  let d100 := d400 - n100 * 36524
  let n4 := d100 / 1461
  let d4 := d100 % 1461
  let n1 := min (d4 / 365) 3
  (400 * n400 + 100 * n100 + 4 * n4 + n1 + 1, d4 - n1 * 365)

end Calendar

open Calendar

structure Date where
  year : Nat
  month : Nat
  day : Nat
  year_pos : 1 ≤ year
  year_le : year ≤ 9999
  day_pos : 1 ≤ day
  day_le : day ≤ monthLength year month
deriving DecidableEq

namespace Date

/-- The day with the given fields, if there is one. -/
def ofFields? (year month day : Nat) : Option Date :=
  if h : 1 ≤ year ∧ year ≤ 9999 ∧ 1 ≤ day ∧ day ≤ monthLength year month then
    some ⟨year, month, day, h.1, h.2.1, h.2.2.1, h.2.2.2⟩
  else none

/-- The number of a day, counted from `0001-01-01` as 1. -/
def ordinal (d : Date) : Nat :=
  daysBeforeYear d.year + daysBeforeMonth d.year d.month + d.day

/-- The day with the given number, if there is one. -/
def ofOrdinal? (n : Int) : Option Date :=
  if n < 1 then none
  else
    let (year, dayOfYear) := splitYear (n - 1).toNat
    let (month, day) := splitDay (monthLengths (isLeap year)) dayOfYear
    ofFields? year (month + 1) (day + 1)

def addDays? (d : Date) (k : Int) : Option Date := ofOrdinal? (d.ordinal + k)

/-- The weekday, counted from Monday as zero. -/
def weekday (d : Date) : Nat := (d.ordinal + 6) % 7

def firstOfMonth (d : Date) : Date :=
  { d with day := 1, day_pos := Nat.le_refl 1, day_le := Nat.le_trans d.day_pos d.day_le }

def firstOfYear (d : Date) : Date :=
  { d with
    month := 1, day := 1, day_pos := Nat.le_refl 1
    day_le := by simp [monthLength, monthLengths] }

/-- The first day of the month before; the first month of all has none before it. -/
def firstOfPreviousMonth? (d : Date) : Option Date :=
  if d.month = 1 then ofFields? (d.year - 1) 12 1 else ofFields? d.year (d.month - 1) 1

/-- A natural in at least `width` digits. -/
def padded (width n : Nat) : List Char :=
  let digits := Nat.toDigits 10 n
  List.replicate (width - digits.length) '0' ++ digits

/-- The text `YYYY-MM-DD`. -/
def iso (d : Date) : String :=
  String.ofList (padded 4 d.year ++ '-' :: padded 2 d.month ++ '-' :: padded 2 d.day)

end Date

end AdSearch
