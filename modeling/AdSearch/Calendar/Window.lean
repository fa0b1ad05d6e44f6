import AdSearch.Calendar.Date

/-!
# Windows of days
-/

namespace AdSearch

/-- The days from `start` to `stop`. -/
structure Window where
  start : Date
  stop : Date
deriving DecidableEq

/-- The days from the start to the end of a window, none if it ends before it starts. -/
def Window.days (w : Window) : Nat := w.stop.ordinal - w.start.ordinal

end AdSearch
