import AdSearch.Proofs.Value.Text
import AdSearch.Record.Matching

/-!
# Conditions without an answer

A condition has an answer unless it asks too much of an integer: the order asks for the number next
to it, which must be in the range, and all else asks for its digits, which must not be too many.
Records are filtered unless such a condition is reached.
-/

namespace AdSearch.Proofs.Record.Evaluation

open AdSearch.Value AdSearch.Proofs.Outcome AdSearch.Proofs.Http.Encoding
  AdSearch.Proofs.Number.Range AdSearch.Proofs.Value.Text

variable {r v : Value} {c : Condition} {cs : List Condition} {f : Failure}

/-! ## Values in a record -/

theorem scalars_subset_fieldScalars {key : String} {fields : List (String × Value)}
    (h : Keyed.get? key fields = some v) : scalars v ⊆ fieldScalars fields := by
  induction fields with
  | nil => cases h
  | cons field fields ih =>
    rw [Keyed.get?] at h
    split at h
    · obtain rfl := Option.some.inj h
      exact List.subset_append_left _ _
    · exact List.Subset.trans (ih h) (List.subset_append_right _ _)

theorem scalars_subset_of_get? {path : List String} (h : r.get? path = some v) :
    scalars v ⊆ scalars r := by
  induction path generalizing r with
  | nil =>
    rw [get?_nil] at h
    obtain rfl := Option.some.inj h
    exact List.Subset.refl _
  | cons key path ih =>
    cases r with
    | record fields =>
      rw [get?_cons_record, Option.bind_eq_some_iff] at h
      obtain ⟨inner, hinner, hv⟩ := h
      exact List.Subset.trans (ih hv) (scalars_subset_fieldScalars hinner)
    | _ => cases h

theorem floatsInFormat_at (h : FloatsInFormat (scalars r)) {field : String}
    (hat : r.at? field = some v) : FloatsInFormat (scalars v) :=
  fun x hx => h x (scalars_subset_of_get? hat hx)

/-! ## Operators -/

/-- Whether an operator asks for the order of numbers. -/
def ordersNumbers : Operator → Bool
  | .gt | .lt | .ge | .le => true
  | _ => false

/-- A value is an integer without a number next to it. -/
def OutOfRange (v : Value) : Prop := ∃ i : Int, v = .int i ∧ rangeEnd ≤ i.natAbs

theorem toNumber_failsIff (v : Value) :
    FailsIff (OutOfRange v) .integerBeyondRange v.toNumber := by
  cases v with
  | int i =>
    have hiff : OutOfRange (.int i) ↔ Binary64.ofInt? i = none := by
      rw [ofInt?_eq_none_iff]
      simp [OutOfRange]
    rw [toNumber]
    split
    · rename_i x hx
      exact failsIff_ok (by simp [hiff, hx]) x
    · rename_i hnone
      exact failsIff_error (hiff.mpr hnone)
  | _ => exact failsIff_ok (by simp [OutOfRange]) _

theorem compares_failsIff (related : Binary64 → Binary64 → Bool) (v : Value) (value : String) :
    FailsIff (OutOfRange v) .integerBeyondRange (compares related v value) :=
  (toNumber_failsIff v).bind_ok _

theorem holds_failsIff_of_orders {op : Operator} (hop : ordersNumbers op = true) (v : Value)
    (value : String) : FailsIff (OutOfRange v) .integerBeyondRange (op.holds v value) := by
  cases op with
  | gt | lt | ge | le =>
    rw [Operator.holds]
    exact compares_failsIff _ v value
  | _ => cases hop

theorem holds_failsIff_of_not_orders {op : Operator} (hop : ordersNumbers op = false)
    (hv : FloatsInFormat (scalars v)) (value : String) :
    FailsIff (HoldsLong (scalars v)) .integerTooLongToWrite (op.holds v value) := by
  cases op with
  | gt | lt | ge | le => cases hop
  | _ => exact (label_failsIff v hv).map _

/-- What an operator asks of a value cannot be done. -/
inductive Exceeds (op : Operator) (v : Value) : Failure → Prop
  | range : ordersNumbers op = true → OutOfRange v → Exceeds op v .integerBeyondRange
  | digits : ordersNumbers op = false → HoldsLong (scalars v) →
    Exceeds op v .integerTooLongToWrite

theorem operator_holds_eq_error_iff {op : Operator} (hv : FloatsInFormat (scalars v))
    (value : String) : op.holds v value = .error f ↔ Exceeds op v f := by
  cases hop : ordersNumbers op with
  | true =>
    rw [(holds_failsIff_of_orders hop v value).eq_error_iff]
    constructor
    · rintro ⟨hrange, rfl⟩
      exact .range hop hrange
    · intro hexceeds
      cases hexceeds with
      | range _ hrange => exact ⟨hrange, rfl⟩
      | digits hop' => cases hop.symm.trans hop'
  | false =>
    rw [(holds_failsIff_of_not_orders hop hv value).eq_error_iff]
    constructor
    · rintro ⟨hlong, rfl⟩
      exact .digits hop hlong
    · intro hexceeds
      cases hexceeds with
      | range hop' => cases hop.symm.trans hop'
      | digits _ hlong => exact ⟨hlong, rfl⟩

/-! ## Conditions -/

/-- A condition asks of the value at its path what cannot be done. -/
def AsksTooMuch (c : Condition) (r : Value) (f : Failure) : Prop :=
  ∃ v, r.at? c.field = some v ∧ Exceeds c.operator v f

theorem holds_eq_error_iff (h : FloatsInFormat (scalars r)) :
    c.holds r = .error f ↔ AsksTooMuch c r f := by
  rw [AsksTooMuch, Condition.holds]
  cases hat : r.at? c.field with
  | none => simp
  | some v => simp [operator_holds_eq_error_iff (floatsInFormat_at h hat)]

/-! ## Runs -/

/-- A member of a list is found to which all members before it lead on. -/
inductive Reaches {α : Type} (leadsOn found : α → Prop) : List α → Prop
  | here {a : α} {rest : List α} : found a → Reaches leadsOn found (a :: rest)
  | later {a : α} {rest : List α} : leadsOn a → Reaches leadsOn found rest →
    Reaches leadsOn found (a :: rest)

section Reaches

variable {α : Type} {leadsOn found : α → Prop} {a : α} {rest : List α}

theorem not_reaches_nil : ¬Reaches leadsOn found [] := by
  intro h
  cases h

theorem reaches_cons :
    Reaches leadsOn found (a :: rest) ↔ found a ∨ leadsOn a ∧ Reaches leadsOn found rest := by
  constructor
  · intro h
    cases h with
    | here hfound => exact Or.inl hfound
    | later hleads hrest => exact Or.inr ⟨hleads, hrest⟩
  · rintro (hfound | ⟨hleads, hrest⟩)
    · exact .here hfound
    · exact .later hleads hrest

/-- Nothing is found in any way if no member is found so. -/
theorem forall_not_reaches_iff {β : Type} {finds : α → β → Prop} {xs : List α} :
    (∀ b, ¬Reaches (fun a => ∀ b', ¬finds a b') (fun a => finds a b) xs) ↔
      ∀ a ∈ xs, ∀ b, ¬finds a b := by
  induction xs with
  | nil => simp [not_reaches_nil]
  | cons a xs ih =>
    rw [List.forall_mem_cons, ← ih]
    simp only [reaches_cons, not_or, not_and, forall_and]
    exact and_congr_right fun ha => ⟨fun h b => h b ha, fun h b _ => h b⟩

end Reaches

/-- A condition is reached that asks too much of a record: all conditions before it hold. -/
def Halts (cs : List Condition) (r : Value) (f : Failure) : Prop :=
  Reaches (fun c => c.holds r = .ok true) (fun c => AsksTooMuch c r f) cs

theorem holdsAll_eq_error_iff (h : FloatsInFormat (scalars r)) :
    holdsAll r cs = .error f ↔ Halts cs r f := by
  induction cs with
  | nil =>
    refine iff_of_false ?_ not_reaches_nil
    intro hf
    cases hf
  | cons c cs ih =>
    rw [Halts, reaches_cons, ← holds_eq_error_iff h, holdsAll]
    cases hc : c.holds r with
    | error g => simp [error_bind]
    | ok b =>
      cases b with
      | true => simpa [ok_bind, Halts] using ih
      | false => simp [ok_bind]

theorem filterRecords_eq_error_iff {records : List Value}
    (h : ∀ r ∈ records, FloatsInFormat (scalars r)) :
    filterRecords cs records = .error f ↔
      Reaches (fun r => ∀ g, ¬Halts cs r g) (fun r => Halts cs r f) records := by
  induction records with
  | nil =>
    refine iff_of_false ?_ not_reaches_nil
    intro hf
    cases hf
  | cons r records ih =>
    obtain ⟨hr, hrecords⟩ := List.forall_mem_cons.mp h
    rw [reaches_cons, ← ih hrecords, filterRecords]
    simp only [← holdsAll_eq_error_iff hr]
    cases hholds : holdsAll r cs with
    | error g => simp [error_bind]
    | ok keep =>
      cases hrest : filterRecords cs records with
      | error g => simp [ok_bind, error_bind]
      | ok tail => simp [ok_bind]

/-! ## Records that ask too much -/

/-- A record that has so many clicks at such a cost. -/
def clicksRecord (clicks : Int) (cost : Binary64) : Value :=
  .record [("metrics", .record [("clicks", .int clicks), ("cost", .float cost)])]

theorem clicks_at (clicks : Int) (cost : Binary64) :
    (clicksRecord clicks cost).at? "metrics.clicks" = some (.int clicks) := by rfl

theorem floatsInFormat_clicksRecord (clicks : Int) {cost : Binary64} (h : InFormat cost) :
    FloatsInFormat (scalars (clicksRecord clicks cost)) := by
  intro x hx
  have hx' : x = cost := by simpa [clicksRecord, scalars, fieldScalars] using hx
  rwa [hx']

/-- An integer of so many digits is out of the range. -/
theorem outOfRange_pow {n : Nat} (h : 1024 ≤ n) : OutOfRange (.int (10 ^ n)) := by
  refine ⟨10 ^ n, rfl, ?_⟩
  rw [Int.natAbs_pow]
  exact rangeEnd_le_pow h

theorem holdsLong_pow {n : Nat} (h : Number.digitLimit ≤ n) :
    HoldsLong (scalars (.int (10 ^ n))) := by
  refine ⟨10 ^ n, List.mem_singleton_self _, ?_⟩
  rw [Int.natAbs_pow]
  exact Nat.pow_le_pow_right (by decide) h

/-- More clicks than none. -/
def someClicks : Condition := ⟨"metrics.clicks", .gt, "0"⟩

theorem holds_clicksRecord (op : Operator) (value : String) (clicks : Int) (cost : Binary64) :
    (Condition.mk "metrics.clicks" op value).holds (clicksRecord clicks cost) =
      op.holds (.int clicks) value := by
  rw [Condition.holds, clicks_at]

theorem someClicks_of_outOfRange {clicks : Int} (h : OutOfRange (.int clicks)) (cost : Binary64) :
    someClicks.holds (clicksRecord clicks cost) = .error .integerBeyondRange := by
  rw [someClicks, holds_clicksRecord]
  exact (holds_failsIff_of_orders rfl _ _).fails h

/-- As many clicks as there are in a text. -/
def sameClicks (value : String) : Condition := ⟨"metrics.clicks", .eq, value⟩

theorem sameClicks_of_holdsLong {clicks : Int} (h : HoldsLong (scalars (.int clicks)))
    (value : String) :
    (sameClicks value).holds (clicksRecord clicks .nan) = .error .integerTooLongToWrite := by
  have hcost : InFormat .nan := trivial
  have hformat := floatsInFormat_at (floatsInFormat_clicksRecord clicks hcost)
    (clicks_at clicks .nan)
  rw [sameClicks, holds_clicksRecord]
  exact (holds_failsIff_of_not_orders rfl hformat _).fails h

/-! ## Answers -/

/-- Where all floating-point numbers are numbers of the format, a condition has an answer on a
record unless it asks too much of it.  Records are filtered unless a condition that asks too much
is reached on one of them, and the first record on which one is reached gives the failure. -/
theorem answers_unless_asking_too_much {records : List Value}
    (h : ∀ r ∈ records, FloatsInFormat (scalars r)) :
    (∀ r ∈ records, ∀ c : Condition,
      (∀ f, c.holds r = .error f ↔ AsksTooMuch c r f) ∧
      ((∃ b, c.holds r = .ok b) ↔ ∀ f, ¬AsksTooMuch c r f)) ∧
    ∀ cs : List Condition,
      (∀ f, filterRecords cs records = .error f ↔
        Reaches (fun r => ∀ g, ¬Halts cs r g) (fun r => Halts cs r f) records) ∧
      ((∃ kept, filterRecords cs records = .ok kept) ↔ ∀ r ∈ records, ∀ f, ¬Halts cs r f) := by
  constructor
  · intro r hr c
    have hfails : ∀ f, c.holds r = .error f ↔ AsksTooMuch c r f :=
      fun f => holds_eq_error_iff (h r hr)
    refine ⟨hfails, ?_⟩
    rw [exists_eq_ok_iff]
    exact forall_congr' fun f => not_congr (hfails f)
  · intro cs
    have hfails : ∀ f, filterRecords cs records = .error f ↔
        Reaches (fun r => ∀ g, ¬Halts cs r g) (fun r => Halts cs r f) records :=
      fun f => filterRecords_eq_error_iff h
    refine ⟨hfails, ?_⟩
    rw [exists_eq_ok_iff, ← forall_not_reaches_iff]
    exact forall_congr' fun f => not_congr (hfails f)

/-- Records with few clicks, with clicks out of the range, and with clicks too many to write. -/
def clicksRecords : List Value :=
  [clicksRecord 7 (.finite false (2 ^ 52) 0), clicksRecord (10 ^ 1024) .nan,
    clicksRecord (10 ^ Number.digitLimit) (.infinite true)]

/-- The second record gives the failure, and the third is not looked at. -/
theorem answers_unless_asking_too_much_clicks :
    (∀ r ∈ clicksRecords, FloatsInFormat (scalars r)) ∧
      filterRecords [someClicks] clicksRecords = .error .integerBeyondRange := by
  have hformat : ∀ r ∈ clicksRecords, FloatsInFormat (scalars r) := by
    simp only [clicksRecords, List.forall_mem_cons]
    refine ⟨floatsInFormat_clicksRecord 7 ?_, floatsInFormat_clicksRecord _ ?_,
      floatsInFormat_clicksRecord _ ?_, by simp⟩
    · exact ⟨⟨by decide, by decide, Or.inr le_rfl⟩, by decide⟩
    · trivial
    · trivial
  obtain ⟨-, hfilter⟩ := answers_unless_asking_too_much hformat
  refine ⟨hformat, ((hfilter [someClicks]).1 .integerBeyondRange).mpr ?_⟩
  refine .later ?_ (.here (.here ⟨_, clicks_at _ _, .range rfl (outOfRange_pow le_rfl)⟩))
  intro g hhalts
  have hfirst : holdsAll (clicksRecord 7 (.finite false (2 ^ 52) 0)) [someClicks] = .ok true := by
    decide +kernel
  rw [← holdsAll_eq_error_iff (hformat _ List.mem_cons_self), hfirst] at hhalts
  cases hhalts

/-- There is no answer where the order is asked of a large integer, or where the digits of a larger
one are asked for. -/
theorem no_answer_on_large_integers :
    someClicks.holds (clicksRecord (10 ^ 1024) .nan) = .error .integerBeyondRange ∧
      filterRecords [someClicks] [clicksRecord (10 ^ 1024) .nan] = .error .integerBeyondRange ∧
      (sameClicks "0").holds (clicksRecord (10 ^ Number.digitLimit) .nan) =
        .error .integerTooLongToWrite := by
  have hrange := someClicks_of_outOfRange (outOfRange_pow le_rfl) .nan
  refine ⟨hrange, ?_, sameClicks_of_holdsLong (holdsLong_pow le_rfl) "0"⟩
  rw [filterRecords, holdsAll, hrange]
  rfl

end AdSearch.Proofs.Record.Evaluation
