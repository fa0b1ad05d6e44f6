import AdSearch.Calendar.Date

/-!
# Dates written in text

A date is written by month, as `YYYY-MM-DD` or `YYYYMMDD`, or by week, as `YYYY-Www-D` or
`YYYYWwwD`, where the day of the week may be left out.  The text takes 7, 8 or 10 octets; a compact
date followed by two more octets is read without them.
-/

namespace AdSearch.Date

open AdSearch.Calendar

def asciiDigit? (c : Char) : Option Nat := if c.isDigit then some (c.toNat - 48) else none

/-- Exactly `width` digits, and the rest. -/
def digits? : Nat → Nat → List Char → Option (Nat × List Char)
  | 0, value, cs => some (value, cs)
  | _ + 1, _, [] => none
  | width + 1, value, c :: cs =>
    (asciiDigit? c).bind fun d => digits? width (10 * value + d) cs

/-- The hyphen between two fields, if the text separates them. -/
def separator? (separated : Bool) (cs : List Char) : Option (List Char) :=
  if separated then cs.head?.bind fun c => if c == '-' then some (cs.drop 1) else none
  else some cs

/-- The number of the Monday that starts the first week of a year, the week of its fourth
day. -/
def firstMonday (year : Nat) : Int :=
  let first : Int := daysBeforeYear year + 1
  let weekday := (first + 6) % 7
  if 3 < weekday then first - weekday + 7 else first - weekday

def weekCount (year : Nat) : Nat := ((firstMonday (year + 1) - firstMonday year) / 7).toNat

/-- The date of a weekday in a week of a year, all counted from one. -/
def ofWeek? (year week weekday : Nat) : Option Date :=
  if 1 ≤ year ∧ year ≤ 9999 ∧ 1 ≤ week ∧ week ≤ weekCount year ∧ 1 ≤ weekday ∧ weekday ≤ 7 then
    ofOrdinal? (firstMonday year + 7 * (week - 1) + (weekday - 1))
  else none

/-- The rest of a date by week, after the year and the letter. -/
def readWeek? (year : Nat) (separated : Bool) (cs : List Char) : Option Date := do
  let (week, cs) ← digits? 2 0 cs
  if cs.isEmpty then ofWeek? year week 1
  else
    let cs ← separator? separated cs
    let (weekday, _) ← digits? 1 0 cs
    ofWeek? year week weekday

/-- The rest of a date by month, after the year. -/
def readMonth? (year : Nat) (separated : Bool) (cs : List Char) : Option Date := do
  let (month, cs) ← digits? 2 0 cs
  let cs ← separator? separated cs
  let (day, _) ← digits? 2 0 cs
  ofFields? year month day

def read? (cs : List Char) : Option Date := do
  let octets := cs.foldr (fun c n => c.utf8Size + n) 0
  if octets != 7 && octets != 8 && octets != 10 then none
  else
    let (year, cs) ← digits? 4 0 cs
    let separated := cs.head? == some '-'
    let cs := if separated then cs.drop 1 else cs
    match cs with
    | 'W' :: cs => readWeek? year separated cs
    | cs => readMonth? year separated cs

end AdSearch.Date
