import AdSearch.Proofs.Calendar.Literal
import AdSearch.Proofs.Query.Days
import AdSearch.Proofs.Query.Extraction
import AdSearch.Proofs.Text.Pieces

/-!
# The days between two dates

Two dates that are written in a condition are the bounds of the window, just as they are written.
What two literals ask for is settled by themselves; but the last days are reckoned first, and where
this cannot be done the search fails, whatever the literals are.
-/

namespace AdSearch.Proofs.Query.Between

open AdSearch.Text AdSearch.Query AdSearch.Log AdSearch.Proofs.Outcome AdSearch.Proofs.Text.Blank
  AdSearch.Proofs.Text.Scan AdSearch.Proofs.Text.Spacing AdSearch.Proofs.Text.Pieces
  AdSearch.Proofs.Calendar.Ordinal AdSearch.Proofs.Calendar.Literal AdSearch.Proofs.Query.Predicate
  AdSearch.Proofs.Query.Draft AdSearch.Proofs.Query.Opening AdSearch.Proofs.Query.Mention
  AdSearch.Proofs.Query.Extraction AdSearch.Proofs.Query.Days

/-! ## Written dates -/

/-- A text is a date in one of its forms, with any blanks around it. -/
def Shows (text : List Char) (form : DateForm) (d : Date) : Prop :=
  ∃ before after, text = before ++ (form.write d ++ after) ∧
    (∀ c ∈ before, isBlank c = true) ∧ ∀ c ∈ after, isBlank c = true

section Shows

variable {text : List Char} {form : DateForm} {d : Date}

theorem Shows.chars (h : Shows text form d) : ∀ c ∈ text, isBlank c = true ∨ c ∈ dateChars := by
  obtain ⟨before, after, rfl, hbefore, hafter⟩ := h
  intro c hc
  rw [List.mem_append, List.mem_append] at hc
  rcases hc with hc | hc | hc
  · exact Or.inl (hbefore c hc)
  · exact Or.inr (mem_dateChars hc)
  · exact Or.inl (hafter c hc)

theorem Shows.not_mem_mark (h : Shows text form d) : '\'' ∉ text := by
  intro hmem
  rcases h.chars _ hmem with hmark | hmark
  · exact absurd hmark (by decide)
  · exact absurd hmark (by decide)

theorem Shows.trim_eq (h : Shows text form d) : trim text = form.write d := by
  obtain ⟨before, after, rfl, hbefore, hafter⟩ := h
  have hall : dateChars.all (fun c => !isBlank c) = true := by decide
  have hblank : ∀ c ∈ form.write d, isBlank c = false := fun c hc => by
    simpa using List.all_eq_true.mp hall c (mem_dateChars hc)
  have hne : form.write d ≠ [] := by
    intro hnil
    rcases length_write form d with hlength | hlength
    · rw [hnil] at hlength
      cases hlength
    · rw [hnil] at hlength
      cases hlength
  exact trim_of_spaced (spaced_of_no_blank hne hblank true) hbefore hafter

/-- No directive with a keyword is made of blanks and the characters of dates. -/
theorem Shows.not_mentions_during (h : Shows text form d) : ¬Mentions DuringText text := by
  rintro ⟨before, directive, after, rfl, -, opening, gap, c, rfl,
    ⟨date, gap', spelled, rfl, hdate, -⟩, -⟩
  have hall : dateChars.all (fun c => caseKey c != caseKey 'd') = true := by decide
  have hwords := (date_word_spec (List.Subset.refl _) hdate).1
  cases date with
  | nil => cases hdate
  | cons e date =>
    rw [sameLetters, beq_iff_eq, List.map_cons] at hdate
    have hletter : caseKey e = caseKey 'd' := (List.cons.inj hdate).1
    rcases h.chars e (by simp) with hblank | hchar
    · rw [isBlank_of_isWord (hwords e List.mem_cons_self)] at hblank
      cases hblank
    · exact bne_iff_ne.mp (List.all_eq_true.mp hall e hchar) hletter

end Shows

/-! ## Reading two dates -/

theorem isPath_date : IsPath "segments.date".toList := ⟨List.all_eq_true.mp (by decide), by decide⟩

def dateField : Path := ⟨"segments.date".toList, isPath_date⟩

/-- The condition that the date lies between two literals. -/
def betweenText (first last : List Char) : List Char :=
  dateField.chars ++ ' ' :: (Keyword.betweenWord ++ (' ' :: '\'' :: (first ++ '\'' ::
    (' ' :: (Keyword.andWord ++ (' ' :: '\'' :: (last ++ ['\''])))))))

example : betweenText "2024-01-01".toList " 2024W054\t".toList =
    "segments.date BETWEEN '2024-01-01' AND ' 2024W054\t'".toList := by decide +kernel

section Reading

variable {first last : Date} {form form' : DateForm} {text text' : List Char}

theorem not_mentions_during_betweenText (h : Shows text form first)
    (h' : Shows text' form' last) : ¬Mentions DuringText (betweenText text text') := by
  have hmarks : betweenText text text' =
      (dateField.chars ++ ' ' :: (Keyword.betweenWord ++ [' '])) ++ '\'' :: (text ++ '\'' ::
        ((' ' :: (Keyword.andWord ++ [' '])) ++ '\'' :: (text' ++ '\'' :: []))) := by
    simp only [betweenText, List.append_assoc, List.cons_append, List.nil_append]
  have hopening :
      ¬Mentions DuringText (dateField.chars ++ ' ' :: (Keyword.betweenWord ++ [' '])) := by
    decide +kernel
  have hjoint : ¬Mentions DuringText (' ' :: (Keyword.andWord ++ [' '])) := by decide +kernel
  have hcut : ∀ xs ys, Mentions DuringText (xs ++ '\'' :: ys) ↔
      Mentions DuringText xs ∨ Mentions DuringText ys :=
    mentions_during_append_cons (by decide) (by decide)
  rw [hmarks, hcut, hcut, hcut, hcut]
  simp only [hopening, hjoint, h.not_mentions_during, h'.not_mentions_during,
    not_mentions_during_nil, or_false, not_false_eq_true]

theorem between?_betweenText (h : Shows text form first) (h' : Shows text' form' last) :
    between? false (betweenText text text') =
      some (.between (some (String.ofList (form.write first)))
        (some (String.ofList (form'.write last))), []) := by
  have hread := between?_quoted dateField (by decide) ⟨Keyword.betweenWord, by decide⟩
    ⟨Keyword.andWord, by decide⟩ h.not_mem_mark h'.not_mem_mark []
  rwa [h.trim_eq, h'.trim_eq] at hread

theorem takeDateRange_betweenText (h : Shows text form first) (h' : Shows text' form' last) :
    takeDateRange (betweenText text text') =
      (some (.between (some (String.ofList (form.write first)))
        (some (String.ofList (form'.write last)))), []) := by
  have hduring := not_mentions_during_betweenText h h'
  rw [← isSome_find?_during_iff, Option.not_isSome_iff_eq_none] at hduring
  rw [takeDateRange, takeDirective_of_none hduring]
  dsimp only
  rw [takeDirective, find?_of_here (between?_betweenText h h')]
  rfl

theorem readConditions_betweenText (h : Shows text form first) (h' : Shows text' form' last) :
    readConditions (betweenText text text') =
      ⟨[], .ok ([], some (.between (some (String.ofList (form.write first)))
        (some (String.ofList (form'.write last)))))⟩ := by
  rw [readConditions, takeDateRange_betweenText h h']
  rfl

end Reading

/-! ## What two literals settle -/

/-- A literal writes a date. -/
def Names (literal : Option String) (d : Date) : Prop :=
  Date.read? (trim (literal.getD "").toList) = some d

/-- Two literals settle the window between them, if both write a date; else there is a complaint
about the first that does not. -/
inductive Settles (start stop : Option String) : Except SearchError Window → Prop
  | window {first last : Date} : Names start first → Names stop last →
    Settles start stop (.ok ⟨first, last⟩)
  | start : (∀ d, ¬Names start d) → Settles start stop (.error (.request (.invalidDate start)))
  | stop {first : Date} : Names start first → (∀ d, ¬Names stop d) →
    Settles start stop (.error (.request (.invalidDate stop)))

/-- A number of days before a day there is a day. -/
def Reckonable (today : Date) (n : Int) : Prop :=
  ∃ d : Date, (d.ordinal : Int) = today.ordinal - n

theorem readLiteral_of_names {literal : Option String} {d : Date} (h : Names literal d) :
    readLiteral literal = .ok d := by
  rw [readLiteral, h]

theorem readLiteral_of_not_names {literal : Option String} (h : ∀ d, ¬Names literal d) :
    readLiteral literal = .error (.request (.invalidDate literal)) := by
  have hnone : Date.read? (trim (literal.getD "").toList) = none :=
    Option.eq_none_iff_forall_ne_some.mpr h
  rw [readLiteral, hnone]

theorem names_or_not (literal : Option String) :
    (∃ d, Names literal d) ∨ ∀ d, ¬Names literal d := by
  by_cases h : ∃ d, Names literal d
  · exact Or.inl h
  · exact Or.inr (not_exists.mp h)

/-- The window between two literals, or what is wrong with them. -/
def bounds (start stop : Option String) : Except SearchError Window := do
  let start ← readLiteral start
  let stop ← readLiteral stop
  .ok ⟨start, stop⟩

theorem settles_bounds (start stop : Option String) : Settles start stop (bounds start stop) := by
  rcases names_or_not start with ⟨first, hfirst⟩ | hstart
  · rcases names_or_not stop with ⟨last, hlast⟩ | hstop
    · rw [bounds, readLiteral_of_names hfirst, ok_bind, readLiteral_of_names hlast, ok_bind]
      exact .window hfirst hlast
    · rw [bounds, readLiteral_of_names hfirst, ok_bind, readLiteral_of_not_names hstop, error_bind]
      exact .stop hfirst hstop
  · rw [bounds, readLiteral_of_not_names hstart, error_bind]
    exact .start hstart

theorem resolveWindow_between {today : Date} {n : Int} (h : Reckonable today n)
    (start stop : Option String) :
    resolveWindow (some (.between start stop)) today n = ⟨[], bounds start stop⟩ := by
  obtain ⟨d, hd⟩ := h
  rw [resolveWindow_some (daysBefore_eq_ok.mpr hd)]
  rfl

theorem names_write (form : DateForm) (d : Date) :
    Names (some (String.ofList (form.write d))) d := by
  have hshows : Shows (form.write d) form d := ⟨[], [], by simp, by simp, by simp⟩
  rw [Names, Option.getD_some, String.toList_ofList, hshows.trim_eq]
  exact read?_write form d

/-- Two written dates, in any of their forms and with any blanks around them, are read as no
condition and as a range of just these forms, which is resolved to the window from the one date to
the other, as long as the default window can be reckoned. -/
theorem written_dates_bound_window {first last : Date} {form form' : DateForm}
    {text text' : List Char} (h : Shows text form first) (h' : Shows text' form' last)
    {today : Date} {defaultDays : Int} (hdefault : Reckonable today defaultDays) :
    ∃ range, range = DateRange.between (some (String.ofList (form.write first)))
        (some (String.ofList (form'.write last))) ∧
      readConditions (betweenText text text') = ⟨[], .ok ([], some range)⟩ ∧
      resolveWindow (some range) today defaultDays = ⟨[], .ok ⟨first, last⟩⟩ ∧
      (Window.days ⟨first, last⟩ : Int) = max 0 ((last.ordinal : Int) - first.ordinal) := by
  refine ⟨_, rfl, readConditions_betweenText h h', ?_, ?_⟩
  · rw [resolveWindow_between hdefault, bounds, readLiteral_of_names (names_write form first),
      ok_bind, readLiteral_of_names (names_write form' last), ok_bind]
  · change ((last.ordinal - first.ordinal : Nat) : Int) = _
    omega

/-- A Sunday whose week belongs to the year before, the last of 53. -/
def newYearSunday : Date := (Date.ofFields? 2021 1 3).get (by decide)

/-- The last day of the calendar. -/
def lastDay : Date := (Date.ofFields? 9999 12 31).get (by decide)

/-- The range may end before it starts, and may be written by week. -/
theorem written_dates_bound_window_weeks :
    Shows "\u20039999-W52-5".toList (.week true) lastDay ∧
      Shows "2020W537\n\t".toList (.week false) newYearSunday ∧ Reckonable newYearSunday 30 ∧
      ∃ range, readConditions (betweenText "\u20039999-W52-5".toList "2020W537\n\t".toList) =
          ⟨[], .ok ([], some range)⟩ ∧
        resolveWindow (some range) newYearSunday 30 = ⟨[], .ok ⟨lastDay, newYearSunday⟩⟩ ∧
        Window.days ⟨lastDay, newYearSunday⟩ = 0 := by
  have hfirst : Shows "\u20039999-W52-5".toList (.week true) lastDay :=
    ⟨['\u2003'], [], by decide +kernel, List.all_eq_true.mp (by decide), by simp⟩
  have hlast : Shows "2020W537\n\t".toList (.week false) newYearSunday :=
    ⟨[], ['\n', '\t'], by decide +kernel, by simp, List.all_eq_true.mp (by decide)⟩
  have hdefault : Reckonable newYearSunday 30 :=
    ⟨⟨2020, 12, 4, by decide, by decide, by decide, by decide⟩, by decide⟩
  obtain ⟨range, -, hread, hresolve, hdays⟩ := written_dates_bound_window hfirst hlast hdefault
  refine ⟨hfirst, hlast, hdefault, range, hread, hresolve, ?_⟩
  exact Int.ofNat_inj.mp (hdays.trans (by decide))

/-! ## Days that cannot be reckoned -/

/-- The ways in which a number of days before a day cannot be reckoned. -/
def overflows (n : Int) : List Failure := [.spanBeyondWord, .spanBeyondRange n, .dateBeyondRange]

theorem daysBefore_of_not_reckonable {today : Date} {n : Int} (h : ¬Reckonable today n) :
    ∃ f ∈ overflows n, today.daysBefore n = .error f := by
  rw [Date.daysBefore]
  split
  · exact ⟨.spanBeyondWord, by simp [overflows], rfl⟩
  · split
    · exact ⟨.spanBeyondRange n, by simp [overflows], rfl⟩
    · split
      · rename_i d hd
        rw [addDays?_eq_some] at hd
        exact absurd ⟨d, by omega⟩ h
      · exact ⟨.dateBeyondRange, by simp [overflows], rfl⟩

theorem resolveWindow_of_not_reckonable {today : Date} {n : Int} (h : ¬Reckonable today n)
    (range : Option DateRange) :
    ∃ f ∈ overflows n, resolveWindow range today n = ⟨[], .error (.failure f)⟩ := by
  obtain ⟨f, hf, hdays⟩ := daysBefore_of_not_reckonable h
  refine ⟨f, hf, ?_⟩
  rw [resolveWindow, hdays]
  rfl

/-- A fault of a literal is no failure of the calendar. -/
theorem Settles.ne_failure {start stop : Option String} {outcome : Except SearchError Window}
    (h : Settles start stop outcome) (f : Failure) : outcome ≠ .error (.failure f) := by
  rintro rfl
  cases h

theorem Settles.reason {start stop : Option String} {e : SearchError}
    (h : Settles start stop (.error e)) :
    ∃ fault, e = .request fault ∧ fault.reason = "INVALID_DATE" := by
  cases h with
  | start => exact ⟨_, rfl, rfl⟩
  | stop => exact ⟨_, rfl, rfl⟩

/-- Two literals have one outcome for all present days and default lengths for which the default
window can be reckoned: the window between them, or the complaint about the first that writes no
date.  For all others there is a failure of the calendar, whatever the literals are. -/
theorem settled_iff_reckonable (start stop : Option String) :
    ∃ outcome, Settles start stop outcome ∧
      (∀ e, outcome = .error e → ∃ fault, e = .request fault ∧ fault.reason = "INVALID_DATE") ∧
      ∀ (today : Date) (defaultDays : Int),
        (resolveWindow (some (.between start stop)) today defaultDays = ⟨[], outcome⟩ ↔
          Reckonable today defaultDays) ∧
        (¬Reckonable today defaultDays → ∃ f ∈ overflows defaultDays,
          resolveWindow (some (.between start stop)) today defaultDays =
            ⟨[], .error (.failure f)⟩) := by
  have hsettles := settles_bounds start stop
  refine ⟨bounds start stop, hsettles, fun e he => (he ▸ hsettles).reason, ?_⟩
  intro today defaultDays
  refine ⟨⟨fun hresolve => ?_, fun h => resolveWindow_between h start stop⟩,
    fun h => resolveWindow_of_not_reckonable h _⟩
  by_contra h
  obtain ⟨f, -, hfailure⟩ := resolveWindow_of_not_reckonable h (some (.between start stop))
  rw [hresolve] at hfailure
  exact hsettles.ne_failure f (congrArg Logged.result hfailure)

/-- The first day of the calendar. -/
def firstDay : Date := (Date.ofFields? 1 1 1).get (by decide)

/-- On the first day the window between two dates, and the complaint about a literal, depend on the
default length. -/
theorem not_settled_on_first_day :
    resolveWindow (some (.between (some "2024-01-01") (some "2024-01-31"))) firstDay 0 =
        ⟨[], .ok ⟨⟨2024, 1, 1, by decide, by decide, by decide, by decide⟩,
          ⟨2024, 1, 31, by decide, by decide, by decide, by decide⟩⟩⟩ ∧
      resolveWindow (some (.between (some "2024-01-01") (some "2024-01-31"))) firstDay 30 =
        ⟨[], .error (.failure .dateBeyondRange)⟩ ∧
      resolveWindow (some (.between (some "soon") none)) firstDay 0 =
        ⟨[], .error (.request (.invalidDate (some "soon")))⟩ ∧
      resolveWindow (some (.between (some "soon") none)) firstDay 30 =
        ⟨[], .error (.failure .dateBeyondRange)⟩ := by
  exact ⟨rfl, rfl, rfl, rfl⟩

end AdSearch.Proofs.Query.Between
