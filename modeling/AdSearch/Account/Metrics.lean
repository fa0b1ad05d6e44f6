import AdSearch.Error
import AdSearch.Value.Basic

/-!
# Metrics

Each entity has counters for one day.  Over a window the counters grow with the days, and two ratios
are derived from the grown counters.
-/

namespace AdSearch

/-- The counters of an entity for one day. -/
structure DailyMetrics where
  impressions : Int
  clicks : Int
  costMicros : Int
  conversions : Int
deriving DecidableEq

/-- The counters of an entity that has none. -/
def DailyMetrics.none : DailyMetrics := ⟨0, 0, 0, 0⟩

/-- The quotient of two counters in a number of decimal places, and zero without a divisor. -/
def ratio (places : Nat) (num den : Int) : Except Failure Binary64 :=
  if den = 0 then .ok (Binary64.zero false)
  else match Binary64.ofRatio ((num < 0) != (den < 0)) num.natAbs den.natAbs with
    | some x => .ok (x.roundPlaces places)
    | Option.none => .error .quotientBeyondRange

/-- The counters over a number of days and their ratios, as fields of a record. -/
def DailyMetrics.over (m : DailyMetrics) (days : Nat) : Except Failure Value := do
  let impressions := m.impressions * days
  let clicks := m.clicks * days
  let cost := m.costMicros * days
  let ctr ← ratio 4 clicks impressions
  let averageCpc ← ratio 2 cost clicks
  .ok (.record [
    ("impressions", .int impressions), ("clicks", .int clicks), ("cost_micros", .int cost),
    ("conversions", .int (m.conversions * days)), ("ctr", .float ctr),
    ("average_cpc", .float averageCpc)])

end AdSearch
