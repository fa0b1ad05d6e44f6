import AdSearch.Number.Binary64
import Mathlib.Data.Prod.Lex

/-!
# The order of numbers

All numbers but NaN have a place in the order, and are compared by their places: first by infinity,
then by size.  So any two of them are in order, in one way only.
-/

namespace AdSearch.Proofs.Number.Order

open AdSearch.Binary64

variable {x y : Binary64} {a b : Int × Int}

theorem exists_rank?_of_ne (h : x ≠ .nan) : ∃ a, x.rank? = some a := by
  cases x with
  | nan => exact absurd rfl h
  | infinite negative => exact ⟨_, rfl⟩
  | finite negative m e => exact ⟨_, rfl⟩

theorem lt_iff (hx : x.rank? = some a) (hy : y.rank? = some b) :
    x.lt y = true ↔ toLex a < toLex b := by
  rw [lt, hx, hy, Prod.Lex.toLex_lt_toLex]
  simp

theorem le_iff (hx : x.rank? = some a) (hy : y.rank? = some b) :
    x.le y = true ↔ toLex a ≤ toLex b := by
  rw [le, hx, hy, Prod.Lex.toLex_le_toLex]
  simp

/-- Nothing is less than NaN or at most NaN, and NaN is not less than or at most anything. -/
theorem unordered_of_nan (h : x = .nan ∨ y = .nan) : x.lt y = false ∧ x.le y = false := by
  rcases h with rfl | rfl
  · exact ⟨rfl, rfl⟩
  · rw [lt, le]
    cases x.rank? <;> exact ⟨rfl, rfl⟩

theorem le_eq_not_lt (hx : x ≠ .nan) (hy : y ≠ .nan) : x.le y = !y.lt x := by
  obtain ⟨a, ha⟩ := exists_rank?_of_ne hx
  obtain ⟨b, hb⟩ := exists_rank?_of_ne hy
  rw [Bool.eq_iff_iff, Bool.not_eq_true', Bool.eq_false_iff, ne_eq, le_iff ha hb, lt_iff hb ha,
    not_lt]

theorem not_lt_and_lt (hx : x ≠ .nan) (hy : y ≠ .nan) : (x.lt y && y.lt x) = false := by
  obtain ⟨a, ha⟩ := exists_rank?_of_ne hx
  obtain ⟨b, hb⟩ := exists_rank?_of_ne hy
  rw [Bool.eq_false_iff, ne_eq, Bool.and_eq_true, lt_iff ha hb, lt_iff hb ha]
  rintro ⟨hlt, hgt⟩
  exact lt_asymm hlt hgt

end AdSearch.Proofs.Number.Order
