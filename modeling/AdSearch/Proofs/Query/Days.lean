import AdSearch.Proofs.Calendar.Ordinal
import AdSearch.Proofs.Outcome
import AdSearch.Query.Period

/-!
# The days that keywords name

The start of a window is reckoned from the present day, in two ways: by counting days back, or by
changing the fields of the day.  The month before this one is reckoned in both ways, its first day
by fields and its last day by counting.
-/

namespace AdSearch.Proofs.Query.Days

open AdSearch.Calendar AdSearch.Log AdSearch.Proofs.Outcome AdSearch.Proofs.Calendar.Ordinal

/-! ## Counting back -/

theorem daysBefore_eq_ok {today d : Date} {n : Int} :
    today.daysBefore n = .ok d ↔ (d.ordinal : Int) = today.ordinal - n := by
  have hpos := ordinal_pos d
  have hle := ordinal_le d
  have hpos' := ordinal_pos today
  have hle' := ordinal_le today
  rw [lastOrdinal] at hle hle'
  unfold Date.daysBefore
  split
  · simp only [reduceCtorEq, false_iff]
    omega
  · split
    · rename_i hspan
      rw [spanLimit] at hspan
      simp only [reduceCtorEq, false_iff]
      omega
    · split
      · rename_i d' hd'
        rw [addDays?_eq_some] at hd'
        rw [Except.ok.injEq]
        constructor
        · rintro rfl
          omega
        · intro hd
          exact ordinal_injective (by omega)
      · rename_i hnone
        simp only [reduceCtorEq, false_iff]
        intro hd
        have hsome := addDays?_eq_some.mpr (show (d.ordinal : Int) = today.ordinal + -n by omega)
        rw [hnone] at hsome
        cases hsome

/-- Days can be counted back as long as there are days. -/
theorem exists_daysBefore {today : Date} {n : Nat} (h : n < today.ordinal) :
    ∃ d : Date, today.daysBefore n = .ok d ∧ d.ordinal + n = today.ordinal := by
  have hle := ordinal_le today
  obtain ⟨d, -, hd⟩ := exists_ordinal (n := today.ordinal - n) (by omega) (by omega)
  refine ⟨d, daysBefore_eq_ok.mpr ?_, ?_⟩ <;> omega

/-! ## Months -/

/-- A day lies in the month before that of another day. -/
def InMonthBefore (d today : Date) : Prop :=
  (d.year = today.year ∧ d.month + 1 = today.month) ∨
    (d.year + 1 = today.year ∧ d.month = 12 ∧ today.month = 1)

theorem one_le_monthLength (d : Date) : 1 ≤ monthLength d.year d.month :=
  Nat.le_trans d.day_pos d.day_le

def lastOfMonth (d : Date) : Date :=
  { d with
    day := monthLength d.year d.month
    day_pos := one_le_monthLength d
    day_le := Nat.le_refl _ }

/-- The first day of a month comes right after the last day of the month before. -/
theorem ordinal_lastOfMonth {d today : Date} (h : InMonthBefore d today) :
    (lastOfMonth d).ordinal + 1 = today.firstOfMonth.ordinal := by
  have hmonth := daysBeforeMonth_succ d.year (month_pos d) (month_le d)
  change daysBeforeYear d.year + daysBeforeMonth d.year d.month + monthLength d.year d.month + 1 =
    daysBeforeYear today.year + daysBeforeMonth today.year today.month + 1
  rcases h with ⟨hyear, hnext⟩ | ⟨hyear, hdecember, hjanuary⟩
  · rw [← hyear, ← hnext, hmonth]
    omega
  · have hsucc := daysBeforeYear_succ d.year_pos
    have hfirst : daysBeforeMonth today.year 1 = 0 := rfl
    rw [hdecember, daysBeforeMonth_thirteen] at hmonth
    rw [← hyear, hdecember, hsucc, hmonth, hjanuary, ← hyear] at *
    omega

theorem monthLength_pos (year : Nat) {month : Nat} (hpos : 1 ≤ month) (hle : month ≤ 12) :
    1 ≤ monthLength year month := by
  have hall : ∀ leap : Bool, ∀ m : Fin 12, 1 ≤ (monthLengths leap).getD m 0 := by decide
  rw [monthLength, if_neg (by omega)]
  exact hall (isLeap year) ⟨month - 1, by omega⟩

/-- Every month but the first of all has one before it. -/
theorem exists_firstOfPreviousMonth {today : Date} (h : 1 < today.year ∨ 1 < today.month) :
    ∃ first, today.firstOfPreviousMonth = .ok first := by
  have hyear := today.year_le
  have hpos := today.year_pos
  have hmonth := month_pos today
  have hle := month_le today
  unfold Date.firstOfPreviousMonth Date.firstOfPreviousMonth?
  by_cases hjanuary : today.month = 1
  · have hfields : 1 ≤ today.year - 1 ∧ today.year - 1 ≤ 9999 ∧ 1 ≤ 1 ∧
        1 ≤ monthLength (today.year - 1) 12 :=
      ⟨by omega, by omega, by omega, monthLength_pos _ (by omega) (by omega)⟩
    rw [if_pos hjanuary, Date.ofFields?, dif_pos hfields]
    exact ⟨_, rfl⟩
  · have hfields : 1 ≤ today.year ∧ today.year ≤ 9999 ∧ 1 ≤ 1 ∧
        1 ≤ monthLength today.year (today.month - 1) :=
      ⟨by omega, by omega, by omega, monthLength_pos _ (by omega) (by omega)⟩
    rw [if_neg hjanuary, Date.ofFields?, dif_pos hfields]
    exact ⟨_, rfl⟩

theorem inMonthBefore_of_firstOfPreviousMonth {first today : Date}
    (h : today.firstOfPreviousMonth = .ok first) : InMonthBefore first today ∧ first.day = 1 := by
  have hmonth := month_pos today
  have hpos := first.year_pos
  unfold Date.firstOfPreviousMonth Date.firstOfPreviousMonth? at h
  split at h
  · rename_i d hd
    obtain rfl := Except.ok.inj h
    split at hd
    · rename_i hjanuary
      obtain ⟨hyear, hdecember, hday⟩ := ofFields?_eq_some hd
      exact ⟨Or.inr ⟨by omega, hdecember, hjanuary⟩, hday⟩
    · rename_i hjanuary
      obtain ⟨hyear, hbefore, hday⟩ := ofFields?_eq_some hd
      exact ⟨Or.inl ⟨hyear, by omega⟩, hday⟩
  · cases h

/-! ## Windows -/

/-- A window is the whole month before that of a day. -/
structure IsMonthBefore (w : Window) (today : Date) : Prop where
  start_mem : InMonthBefore w.start today
  stop_mem : InMonthBefore w.stop today
  start_day : w.start.day = 1
  stop_day : w.stop.day = monthLength w.stop.year w.stop.month
  next : w.stop.addDays? 1 = some today.firstOfMonth
  days : w.days = monthLength w.start.year w.start.month - 1

theorem isMonthBefore_lastOfMonth {first today : Date} (h : InMonthBefore first today)
    (hday : first.day = 1) : IsMonthBefore ⟨first, lastOfMonth first⟩ today where
  start_mem := h
  stop_mem := h
  start_day := hday
  stop_day := rfl
  next := by
    have hnext := ordinal_lastOfMonth h
    rw [addDays?_eq_some]
    change (today.firstOfMonth.ordinal : Int) = (lastOfMonth first).ordinal + 1
    omega
  days := by
    change daysBeforeYear first.year + daysBeforeMonth first.year first.month +
        monthLength first.year first.month -
      (daysBeforeYear first.year + daysBeforeMonth first.year first.month + first.day) =
        monthLength first.year first.month - 1
    omega

theorem ordinal_firstOfMonth_le (today : Date) :
    today.firstOfMonth.ordinal ≤ today.ordinal := by
  have hpos := today.day_pos
  change daysBeforeYear today.year + daysBeforeMonth today.year today.month + 1 ≤
    daysBeforeYear today.year + daysBeforeMonth today.year today.month + today.day
  omega

theorem ordinal_firstOfYear_le (today : Date) : today.firstOfYear.ordinal ≤ today.ordinal := by
  have hpos := today.day_pos
  change daysBeforeYear today.year + 0 + 1 ≤
    daysBeforeYear today.year + daysBeforeMonth today.year today.month + today.day
  omega

theorem window_lastMonth {first today : Date} (h : today.firstOfPreviousMonth = .ok first) :
    Period.lastMonth.window today = .ok ⟨first, lastOfMonth first⟩ := by
  have hnext := ordinal_lastOfMonth (inMonthBefore_of_firstOfPreviousMonth h).1
  have hlast : today.firstOfMonth.daysBefore 1 = .ok (lastOfMonth first) :=
    daysBefore_eq_ok.mpr (by omega)
  rw [Period.window, h, ok_bind, hlast, ok_bind]

theorem exists_lastMonth {today : Date} (h : 1 < today.year ∨ 1 < today.month) :
    ∃ w, Period.lastMonth.window today = .ok w ∧ IsMonthBefore w today := by
  obtain ⟨first, hfirst⟩ := exists_firstOfPreviousMonth h
  obtain ⟨hbefore, hday⟩ := inMonthBefore_of_firstOfPreviousMonth hfirst
  exact ⟨_, window_lastMonth hfirst, isMonthBefore_lastOfMonth hbefore hday⟩

/-- No period ends before it starts. -/
theorem ordinal_start_le {period : Period} {today : Date} {w : Window}
    (h : period.window today = .ok w) : w.start.ordinal ≤ w.stop.ordinal := by
  cases period with
  | lastDays n =>
    obtain ⟨first, hfirst, rfl⟩ := map_eq_ok.mp h
    rw [daysBefore_eq_ok] at hfirst
    change first.ordinal ≤ today.ordinal
    omega
  | thisMonth =>
    obtain rfl := Except.ok.inj h
    exact ordinal_firstOfMonth_le today
  | lastMonth =>
    obtain ⟨first, hfirst, -⟩ := bind_eq_ok.mp h
    rw [window_lastMonth hfirst] at h
    obtain rfl := Except.ok.inj h
    have hday := (inMonthBefore_of_firstOfPreviousMonth hfirst).2
    have hle := ordinal_firstOfMonth_le (lastOfMonth first)
    change daysBeforeYear first.year + daysBeforeMonth first.year first.month + 1 ≤ _ at hle
    change daysBeforeYear first.year + daysBeforeMonth first.year first.month + first.day ≤ _
    rwa [hday]
  | thisYear =>
    obtain rfl := Except.ok.inj h
    exact ordinal_firstOfYear_le today

/-! ## Keywords -/

/-- A keyword is a name in any letter case. -/
def Writes (keyword name : String) : Prop := String.ofList (Text.upper keyword.toList) = name

theorem ofKeyword?_of_mem {keyword name : String} {period : Period} (h : Writes keyword name)
    (hmem : (name, period) ∈ Period.keywords) : Period.ofKeyword? keyword = some period := by
  unfold Period.ofKeyword?
  rw [h]
  have hall : ∀ entry ∈ Period.keywords,
      (Period.keywords.find? fun other => other.1 == entry.1).map (·.2) = some entry.2 := by decide
  exact hall _ hmem

theorem ofKeyword?_eq_none {keyword : String}
    (h : ∀ entry ∈ Period.keywords, ¬Writes keyword entry.1) :
    Period.ofKeyword? keyword = none := by
  unfold Period.ofKeyword?
  rw [Option.map_eq_none_iff, List.find?_eq_none]
  intro entry hentry hname
  exact h entry hentry (beq_iff_eq.mp hname).symm

section Resolution

variable {today start : Date} {defaultDays : Int}

theorem resolveWindow_none (h : today.daysBefore defaultDays = .ok start) :
    resolveWindow none today defaultDays = ⟨[], .ok ⟨start, today⟩⟩ := by
  rw [resolveWindow, h]
  rfl

theorem resolveWindow_some (h : today.daysBefore defaultDays = .ok start) (range : DateRange) :
    resolveWindow (some range) today defaultDays =
      range.window today defaultDays ⟨start, today⟩ := by
  rw [resolveWindow, h]
  rfl

theorem resolveWindow_during (h : today.daysBefore defaultDays = .ok start)
    {keyword name : String} {period : Period} (hname : Writes keyword name)
    (hmem : (name, period) ∈ Period.keywords) :
    resolveWindow (some (.during (some keyword))) today defaultDays =
      ⟨[], (period.window today).mapError .failure⟩ := by
  rw [resolveWindow_some h, DateRange.window, Option.getD_some, ofKeyword?_of_mem hname hmem]
  rfl

/-- The warning about a keyword that names no period. -/
def unknownKeywordLine (keyword : Option String) (defaultDays : Int) : Line where
  level := .warning
  logger := "src.gaql.date_range"
  message := "Unknown DURING keyword " ++ Text.quoteOption keyword ++ ", using last " ++
    toString defaultDays ++ " days"

theorem resolveWindow_unknown (h : today.daysBefore defaultDays = .ok start)
    {keyword : Option String}
    (hname : ∀ entry ∈ Period.keywords, ¬Writes (keyword.getD "") entry.1) :
    resolveWindow (some (.during keyword)) today defaultDays =
      ⟨[unknownKeywordLine keyword defaultDays], .ok ⟨start, today⟩⟩ := by
  rw [resolveWindow_some h, DateRange.window, ofKeyword?_eq_none hname]
  rfl

end Resolution

/-- The keywords that name a number of last days. -/
def lastDaysKeywords : List (String × Nat) :=
  [("LAST_7_DAYS", 7), ("LAST_14_DAYS", 14), ("LAST_30_DAYS", 30)]

/-- Keywords name the right days, on every day and in any letter case, as long as the default window
can be reckoned: the last days, this month and this year up to the present day, and the whole month
before.  An unknown keyword gets the default window and one warning. -/
theorem keywords_name_their_days {today start : Date} {defaultDays : Int}
    (hdefault : (start.ordinal : Int) = today.ordinal - defaultDays) :
    (∀ entry ∈ lastDaysKeywords, ∀ keyword, Writes keyword entry.1 → entry.2 < today.ordinal →
      ∃ first : Date, first.ordinal + entry.2 = today.ordinal ∧
        resolveWindow (some (.during (some keyword))) today defaultDays =
          ⟨[], .ok ⟨first, today⟩⟩ ∧ Window.days ⟨first, today⟩ = entry.2) ∧
    (∀ keyword, Writes keyword "THIS_MONTH" → ∃ first : Date,
      (first.year = today.year ∧ first.month = today.month ∧ first.day = 1) ∧
        resolveWindow (some (.during (some keyword))) today defaultDays =
          ⟨[], .ok ⟨first, today⟩⟩) ∧
    (∀ keyword, Writes keyword "THIS_YEAR" → ∃ first : Date,
      (first.year = today.year ∧ first.month = 1 ∧ first.day = 1) ∧
        resolveWindow (some (.during (some keyword))) today defaultDays =
          ⟨[], .ok ⟨first, today⟩⟩) ∧
    (∀ keyword, Writes keyword "LAST_MONTH" → 1 < today.year ∨ 1 < today.month →
      ∃ w : Window, IsMonthBefore w today ∧
        resolveWindow (some (.during (some keyword))) today defaultDays = ⟨[], .ok w⟩) ∧
    (∀ entry ∈ Period.keywords, ∀ keyword, Writes keyword entry.1 → ∀ w : Window,
      (resolveWindow (some (.during (some keyword))) today defaultDays).result = .ok w →
        ¬Before w.stop w.start) ∧
    ∀ keyword, (∀ entry ∈ Period.keywords, ¬Writes (keyword.getD "") entry.1) →
      resolveWindow none today defaultDays = ⟨[], .ok ⟨start, today⟩⟩ ∧
      resolveWindow (some (.during keyword)) today defaultDays =
        ⟨[unknownKeywordLine keyword defaultDays], .ok ⟨start, today⟩⟩ := by
  have hstart := daysBefore_eq_ok.mpr hdefault
  refine ⟨?_, ?_, ?_, ?_, ?_, ?_⟩
  · intro entry hentry keyword hname hlt
    obtain ⟨first, hfirst, hordinal⟩ := exists_daysBefore hlt
    have hall : ∀ entry ∈ lastDaysKeywords,
        (entry.1, Period.lastDays (entry.2 : Nat)) ∈ Period.keywords := by decide
    refine ⟨first, hordinal, ?_, ?_⟩
    · rw [resolveWindow_during hstart hname (hall entry hentry), Period.window, hfirst]
      rfl
    · change today.ordinal - first.ordinal = entry.2
      omega
  · intro keyword hname
    exact ⟨today.firstOfMonth, ⟨rfl, rfl, rfl⟩,
      resolveWindow_during hstart hname (show (_, Period.thisMonth) ∈ _ by decide)⟩
  · intro keyword hname
    exact ⟨today.firstOfYear, ⟨rfl, rfl, rfl⟩,
      resolveWindow_during hstart hname (show (_, Period.thisYear) ∈ _ by decide)⟩
  · intro keyword hname hmonth
    obtain ⟨w, hw, hbefore⟩ := exists_lastMonth hmonth
    refine ⟨w, hbefore, ?_⟩
    rw [resolveWindow_during hstart hname (show (_, Period.lastMonth) ∈ _ by decide), hw]
    rfl
  · intro entry hentry keyword hname w hw
    rw [resolveWindow_during hstart hname hentry, mapError_eq_ok] at hw
    have hle := ordinal_start_le hw
    rw [before_iff]
    omega
  · intro keyword hname
    exact ⟨resolveWindow_none hstart, resolveWindow_unknown hstart hname⟩

/-- The last day of March in a leap year. -/
def marchEnd : Date := ⟨2028, 3, 31, by decide, by decide, by decide, by decide⟩

/-- Twenty days before. -/
def midMarch : Date := ⟨2028, 3, 11, by decide, by decide, by decide, by decide⟩

theorem keywords_name_their_days_marchEnd :
    (midMarch.ordinal : Int) = marchEnd.ordinal - 20 ∧ Writes "Last_Month" "LAST_MONTH" ∧
      ∃ w : Window, w.days = 28 ∧
        resolveWindow (some (.during (some "Last_Month"))) marchEnd 20 = ⟨[], .ok w⟩ := by
  have hdefault : (midMarch.ordinal : Int) = marchEnd.ordinal - 20 := by decide
  have hname : Writes "Last_Month" "LAST_MONTH" := by
    unfold Writes
    decide
  obtain ⟨-, -, -, hlastMonth, -⟩ := keywords_name_their_days hdefault
  obtain ⟨w, hbefore, hw⟩ := hlastMonth "Last_Month" hname (Or.inl (by decide))
  refine ⟨hdefault, hname, w, ?_, hw⟩
  rcases hbefore.start_mem with ⟨hyear, hmonth⟩ | ⟨-, -, hjanuary⟩
  · have hfebruary : w.start.month = 2 := by
      change w.start.month + 1 = 3 at hmonth
      omega
    rw [hbefore.days, hyear, hfebruary]
    rfl
  · cases hjanuary

end AdSearch.Proofs.Query.Days
