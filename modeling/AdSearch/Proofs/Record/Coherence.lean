import AdSearch.Proofs.Number.Order
import AdSearch.Proofs.Record.Evaluation

/-!
# Operators on one field

What the operators say of one field and one written value fits together.  Equality and membership
have opposites, and the operators that ask for an order agree on one, or are all false where no two
numbers are compared.
-/

namespace AdSearch.Proofs.Record.Coherence

open AdSearch.Proofs.Outcome AdSearch.Proofs.Number.Order
  AdSearch.Proofs.Record.Evaluation

variable {r v : Value} {field value : String} {verdict : Operator → Bool}

/-- The operators have these verdicts on a value. -/
def Decides (v : Value) (value : String) (verdict : Operator → Bool) : Prop :=
  ∀ op : Operator, op.holds v value = .ok (verdict op)

/-! ## Opposites -/

/-- Opposite questions about one outcome have opposite answers. -/
theorem eq_not_of_map {α : Type} {x : Except Failure α} {asks : α → Bool} {b b' : Bool}
    (h : x.map asks = .ok b) (h' : x.map (fun a => !asks a) = .ok b') : b' = !b := by
  obtain ⟨a, rfl, rfl⟩ := map_eq_ok.mp h
  exact (Except.ok.inj h').symm

theorem Decides.ne_eq_not_eq (h : Decides v value verdict) : verdict .ne = !verdict .eq :=
  eq_not_of_map (h .eq) (h .ne)

theorem Decides.notIn_eq_not_isIn (h : Decides v value verdict) :
    verdict .notIn = !verdict .isIn :=
  eq_not_of_map (h .isIn) (h .notIn)

/-! ## The order -/

/-- The operators that ask for an order agree on one: it has just one of three outcomes. -/
structure AgreeOnOrder (verdict : Operator → Bool) : Prop where
  one : [verdict .lt, verdict .gt, verdict .le && verdict .ge].count true = 1
  ge : verdict .ge = !verdict .lt
  le : verdict .le = !verdict .gt

theorem agreeOnOrder_of_opposites (hge : verdict .ge = !verdict .lt)
    (hle : verdict .le = !verdict .gt) (hboth : (verdict .lt && verdict .gt) = false) :
    AgreeOnOrder verdict := by
  refine ⟨?_, hge, hle⟩
  rw [hge, hle]
  generalize verdict .lt = lt at hboth
  generalize verdict .gt = gt at hboth
  revert lt gt
  decide

/-- A value and a written value are both numbers. -/
def BothNumbers (v : Value) (value : String) : Prop :=
  ∃ x y, v.toNumber = .ok x ∧ x ≠ .nan ∧ Number.readNumber? value.toList = some y ∧ y ≠ .nan

/-- The verdicts on the order are those on the numbers of the two values. -/
theorem Decides.exists_numbers (h : Decides v value verdict) :
    ∃ x, v.toNumber = .ok x ∧ ∀ y, (Number.readNumber? value.toList).getD .nan = y →
      verdict .lt = x.lt y ∧ verdict .gt = y.lt x ∧ verdict .le = x.le y ∧
        verdict .ge = y.le x := by
  obtain ⟨x, hx, -⟩ := bind_eq_ok.mp (h .lt)
  refine ⟨x, hx, ?_⟩
  rintro y rfl
  have hverdict : ∀ (related : Binary64 → Binary64 → Bool) (b : Bool),
      compares related v value = .ok b →
        b = related x ((Number.readNumber? value.toList).getD .nan) := by
    intro related b hb
    rw [compares, hx, ok_bind] at hb
    exact (Except.ok.inj hb).symm
  exact ⟨hverdict (fun x y => x.lt y) _ (h .lt), hverdict (fun x y => y.lt x) _ (h .gt),
    hverdict (fun x y => x.le y) _ (h .le), hverdict (fun x y => y.le x) _ (h .ge)⟩

theorem Decides.agreeOnOrder (h : Decides v value verdict) (hnumbers : BothNumbers v value) :
    AgreeOnOrder verdict := by
  obtain ⟨x, y, hx, hxnan, hread, hynan⟩ := hnumbers
  obtain ⟨x', hx', hverdict⟩ := h.exists_numbers
  obtain rfl := Except.ok.inj (hx.symm.trans hx')
  obtain ⟨hlt, hgt, hle, hge⟩ := hverdict y (by rw [hread, Option.getD_some])
  apply agreeOnOrder_of_opposites
  · rw [hge, hlt, le_eq_not_lt hynan hxnan]
  · rw [hle, hgt, le_eq_not_lt hxnan hynan]
  · rw [hlt, hgt, not_lt_and_lt hxnan hynan]

theorem Decides.no_order (h : Decides v value verdict) (hnumbers : ¬BothNumbers v value) :
    ∀ op, ordersNumbers op = true → verdict op = false := by
  obtain ⟨x, hx, hverdict⟩ := h.exists_numbers
  obtain ⟨hlt, hgt, hle, hge⟩ := hverdict _ rfl
  have hnan : x = .nan ∨ (Number.readNumber? value.toList).getD .nan = .nan := by
    by_contra hne
    obtain ⟨hxnan, hynan⟩ := not_or.mp hne
    cases hread : Number.readNumber? value.toList with
    | none => exact hynan (by rw [hread, Option.getD_none])
    | some y => exact hnumbers ⟨x, y, hx, hxnan, hread, by rwa [hread, Option.getD_some] at hynan⟩
  obtain ⟨hnlt, hnle⟩ := unordered_of_nan hnan
  obtain ⟨hngt, hnge⟩ := unordered_of_nan hnan.symm
  intro op hop
  cases op with
  | gt => exact hgt.trans hngt
  | lt => exact hlt.trans hnlt
  | ge => exact hge.trans hnge
  | le => exact hle.trans hnle
  | _ => cases hop

/-- Where every operator has a verdict on a field and a written value, all are false if the path
leads nowhere.  If it leads to a value, inequality and exclusion are the opposites of equality and
membership, and the operators that ask for an order agree on one if both values are numbers, and
are all false if not. -/
theorem operators_cohere
    (h : ∀ op : Operator, (Condition.mk field op value).holds r = .ok (verdict op)) :
    (r.at? field = none → ∀ op, verdict op = false) ∧
    ∀ v, r.at? field = some v →
      verdict .ne = (!verdict .eq) ∧ verdict .notIn = (!verdict .isIn) ∧
      (BothNumbers v value ∧ AgreeOnOrder verdict ∨
        ¬BothNumbers v value ∧ ∀ op, ordersNumbers op = true → verdict op = false) := by
  constructor
  · intro hat op
    have hop := h op
    rw [Condition.holds, hat] at hop
    exact (Except.ok.inj hop).symm
  · intro v hat
    have hdecides : Decides v value verdict := by
      intro op
      rw [← h op, Condition.holds, hat]
    refine ⟨hdecides.ne_eq_not_eq, hdecides.notIn_eq_not_isIn, ?_⟩
    by_cases hnumbers : BothNumbers v value
    · exact Or.inl ⟨hnumbers, hdecides.agreeOnOrder hnumbers⟩
    · exact Or.inr ⟨hnumbers, hdecides.no_order hnumbers⟩

/-- Seven clicks are not written as 7.0, but are just as many. -/
theorem operators_cohere_sevenClicks :
    (∀ op : Operator, (Condition.mk "metrics.clicks" op "7.0").holds (clicksRecord 7 .nan) =
      .ok ([Operator.ne, .notIn, .le, .ge].contains op)) ∧
      AgreeOnOrder fun op => [Operator.ne, .notIn, .le, .ge].contains op := by
  have hverdict : ∀ op : Operator,
      (Condition.mk "metrics.clicks" op "7.0").holds (clicksRecord 7 .nan) =
        .ok ([Operator.ne, .notIn, .le, .ge].contains op) := by
    intro op
    cases op <;> decide +kernel
  obtain ⟨-, hvalue⟩ := operators_cohere hverdict
  obtain ⟨-, -, ⟨-, hagree⟩ | ⟨-, hnone⟩⟩ := hvalue (.int 7) rfl
  · exact ⟨hverdict, hagree⟩
  · cases hnone .le rfl

end AdSearch.Proofs.Record.Coherence
