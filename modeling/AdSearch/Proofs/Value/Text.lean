import AdSearch.Proofs.Http.Encoding
import AdSearch.Proofs.Number.Digits
import AdSearch.Proofs.Number.Range
import AdSearch.Proofs.Outcome
import AdSearch.Value.Text

/-!
# Values without a text

The only values without a text are those that hold an integer of too many digits.  Where a number
without a fraction is written as an integer, it has few digits.
-/

namespace AdSearch.Proofs.Value.Text

open AdSearch.Value AdSearch.Proofs.Outcome AdSearch.Proofs.Http.Encoding
  AdSearch.Proofs.Number.Digits AdSearch.Proofs.Number.Range

/-! ## Long integers -/

/-- An integer with more digits than are written is among scalars. -/
def HoldsLong (scalars : List Value) : Prop :=
  ∃ i : Int, .int i ∈ scalars ∧ 10 ^ Number.digitLimit ≤ i.natAbs

theorem not_holdsLong_nil : ¬HoldsLong [] := by
  rintro ⟨i, hi, -⟩
  cases hi

theorem holdsLong_append (xs ys : List Value) :
    HoldsLong (xs ++ ys) ↔ HoldsLong xs ∨ HoldsLong ys := by
  simp only [HoldsLong, List.mem_append, or_and_right, exists_or]

theorem holdsLong_int (i : Int) : HoldsLong [.int i] ↔ 10 ^ Number.digitLimit ≤ i.natAbs := by
  constructor
  · rintro ⟨j, hj, hlong⟩
    obtain rfl := Value.int.inj (List.mem_singleton.mp hj)
    exact hlong
  · intro hlong
    exact ⟨i, List.mem_singleton_self _, hlong⟩

/-- A scalar that is no integer is not long. -/
theorem not_holdsLong_of_ne {v : Value} (h : ∀ i, v ≠ .int i) : ¬HoldsLong [v] := by
  rintro ⟨i, hi, -⟩
  exact h i (List.mem_singleton.mp hi).symm

theorem integerText_failsIff (i : Int) :
    FailsIff (10 ^ Number.digitLimit ≤ i.natAbs) .integerTooLongToWrite (integerText i) := by
  rw [integerText]
  split
  · rename_i hshort
    exact failsIff_ok (not_le.mpr (isWritable_iff.mp hshort)) _
  · rename_i hlong
    exact failsIff_error (not_lt.mp (mt isWritable_iff.mpr hlong))

/-- A text of two parts fails if one of its parts does. -/
theorem append_failsIff {α β γ : Type} {xs ys : List Value} {x : Except Failure α}
    {y : Except Failure β} (hx : FailsIff (HoldsLong xs) .integerTooLongToWrite x)
    (hy : FailsIff (HoldsLong ys) .integerTooLongToWrite y) (f : α → β → γ) :
    FailsIff (HoldsLong (xs ++ ys)) .integerTooLongToWrite
      (x >>= fun a => y >>= fun b => .ok (f a b)) :=
  (hx.bind fun a => hy.bind_ok (f a)).congr (holdsLong_append xs ys)

/-! ## Texts inside lists and mappings -/

mutual

theorem quoted_failsIff (v : Value) :
    FailsIff (HoldsLong (scalars v)) .integerTooLongToWrite (quoted v) := by
  cases v with
  | int i => exact (integerText_failsIff i).congr (holdsLong_int i)
  | list items => exact (quotedItems_failsIff items).bind_ok _
  | record fields => exact (quotedFields_failsIff fields).bind_ok _
  | _ => exact failsIff_ok (not_holdsLong_of_ne (by simp)) _

theorem quotedItems_failsIff (items : List Value) :
    FailsIff (HoldsLong (itemScalars items)) .integerTooLongToWrite (quotedItems items) := by
  cases items with
  | nil => exact failsIff_ok not_holdsLong_nil _
  | cons item rest => exact append_failsIff (quoted_failsIff item) (quotedItems_failsIff rest) _

theorem quotedFields_failsIff (fields : List (String × Value)) :
    FailsIff (HoldsLong (fieldScalars fields)) .integerTooLongToWrite (quotedFields fields) := by
  cases fields with
  | nil => exact failsIff_ok not_holdsLong_nil _
  | cons field rest =>
    exact append_failsIff (quoted_failsIff field.2) (quotedFields_failsIff rest) _

end

/-! ## Labels -/

/-- All floating-point numbers among scalars are numbers of the format. -/
def FloatsInFormat (scalars : List Value) : Prop := ∀ x, .float x ∈ scalars → InFormat x

theorem label_float_failsIff {x : Binary64} (h : InFormat x) :
    FailsIff (HoldsLong [.float x]) .integerTooLongToWrite (label (.float x)) := by
  have hlong : ¬HoldsLong [.float x] := not_holdsLong_of_ne (by simp)
  rw [label]
  cases hx : x.toInt? with
  | none => exact failsIff_ok hlong _
  | some i =>
    have hshort : ¬10 ^ Number.digitLimit ≤ i.natAbs := not_le.mpr (h.natAbs_lt hx (by decide))
    exact (integerText_failsIff i).congr (iff_of_false hlong hshort)

mutual

/-- A value has a label unless it holds a long integer. -/
theorem label_failsIff (v : Value) (h : FloatsInFormat (scalars v)) :
    FailsIff (HoldsLong (scalars v)) .integerTooLongToWrite (label v) := by
  cases v with
  | int i => exact quoted_failsIff (.int i)
  | float x => exact label_float_failsIff (h x (List.mem_singleton_self _))
  | list items => exact (itemLabels_failsIff items h).bind_ok _
  | record fields => exact quoted_failsIff (.record fields)
  | _ => exact failsIff_ok (not_holdsLong_of_ne (by simp)) _

theorem itemLabels_failsIff (items : List Value) (h : FloatsInFormat (itemScalars items)) :
    FailsIff (HoldsLong (itemScalars items)) .integerTooLongToWrite (itemLabels items) := by
  cases items with
  | nil => exact failsIff_ok not_holdsLong_nil _
  | cons item rest =>
    have hitem : FloatsInFormat (scalars item) := fun x hx => h x (List.mem_append_left _ hx)
    have hrest : FloatsInFormat (itemScalars rest) := fun x hx => h x (List.mem_append_right _ hx)
    exact append_failsIff (label_failsIff item hitem) (itemLabels_failsIff rest hrest) _

end

end AdSearch.Proofs.Value.Text
