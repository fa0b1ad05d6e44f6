import AdSearch.Number.Literal
import Mathlib.Algebra.Group.Nat.Defs

/-!
# Integers that can be written

Whether an integer has few enough digits is a matter of its size.
-/

namespace AdSearch.Proofs.Number.Digits

open AdSearch.Number

theorem isWritable_iff {i : Int} : isWritable i = true ↔ i.natAbs < 10 ^ digitLimit := by
  rw [isWritable, decide_eq_true_eq]
  exact Nat.length_toDigits_le_iff (by decide) (by decide)

end AdSearch.Proofs.Number.Digits
