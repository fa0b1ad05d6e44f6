import AdSearch.Calendar.Literal
import AdSearch.Calendar.Window
import AdSearch.Log.Logged
import AdSearch.Query.Basic
import AdSearch.Error
import AdSearch.Text.Blank
import AdSearch.Text.Case

/-!
# The days of a query

A keyword names a period that is reckoned from the present day; two dates are taken as they are.
A query without a date range, or with an unknown keyword, reports on the last days.
-/

namespace AdSearch

open AdSearch.Log

/-- A period that ends on the present day or with the month before. -/
inductive Period where
  | lastDays (n : Nat)
  | thisMonth
  | lastMonth
  | thisYear
deriving DecidableEq

/-- The keywords and their periods. -/
def Period.keywords : List (String × Period) := [
  ("LAST_7_DAYS", .lastDays 7), ("LAST_14_DAYS", .lastDays 14), ("LAST_30_DAYS", .lastDays 30),
  ("THIS_MONTH", .thisMonth), ("LAST_MONTH", .lastMonth), ("THIS_YEAR", .thisYear)]

def Date.daysBefore (today : Date) (n : Int) : Except Failure Date :=
  if 2147483647 < n ∨ n < -2147483648 then .error .spanBeyondWord
  else if spanLimit < n.natAbs then .error (.spanBeyondRange n)
  else match today.addDays? (-n) with
    | some d => .ok d
    | none => .error .dateBeyondRange

/-- The first day of the month before. -/
def Date.firstOfPreviousMonth (today : Date) : Except Failure Date :=
  match today.firstOfPreviousMonth? with
  | some d => .ok d
  | none => .error (.yearBeyondRange (today.year - 1))

def Period.window (today : Date) : Period → Except Failure Window
  | lastDays n => (today.daysBefore n).map fun start => ⟨start, today⟩
  | thisMonth => .ok ⟨today.firstOfMonth, today⟩
  | lastMonth => do
    let start ← today.firstOfPreviousMonth
    let stop ← today.firstOfMonth.daysBefore 1
    .ok ⟨start, stop⟩
  | thisYear => .ok ⟨today.firstOfYear, today⟩

/-- The period that a keyword names, in any letter case. -/
def Period.ofKeyword? (keyword : String) : Option Period :=
  let name := String.ofList (Text.upper keyword.toList)
  (keywords.find? fun entry => entry.1 == name).map (·.2)

/-- The date that a literal writes, without the blanks around it. -/
def readLiteral (literal : Option String) : Except SearchError Date :=
  match Date.read? (Text.trim (literal.getD "").toList) with
  | some d => .ok d
  | none => .error (.request (.invalidDate literal))

/-- The days that a date range asks for, and the warning if its keyword is unknown. -/
def DateRange.window (range : DateRange) (today : Date) (defaultDays : Int) (default : Window) :
    Logged SearchError Window :=
  match range with
  | between start stop => .ofExcept do
    let start ← readLiteral start
    let stop ← readLiteral stop
    .ok ⟨start, stop⟩
  | during keyword =>
    match Period.ofKeyword? (keyword.getD "") with
    | some period => .ofExcept ((period.window today).mapError .failure)
    | none => do
      Logged.write ⟨.warning, "src.gaql.date_range",
        "Unknown DURING keyword " ++ Text.quoteOption keyword ++ ", using last " ++
          toString defaultDays ++ " days"⟩
      pure default

/-- The days that a query reports on.  The last days are reckoned first, whatever it asks for. -/
def resolveWindow (range : Option DateRange) (today : Date) (defaultDays : Int) :
    Logged SearchError Window := do
  let start ← Logged.ofExcept ((today.daysBefore defaultDays).mapError .failure)
  let default : Window := ⟨start, today⟩
  match range with
  | none => pure default
  | some range => range.window today defaultDays default

end AdSearch
