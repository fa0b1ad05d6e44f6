import AdSearch.Text.Case
import AdSearch.Text.Scan
import Mathlib.Data.List.Basic
import Mathlib.Tactic.Common

/-!
# Blanks among the other characters

No blank is a word character, and none has another case.
-/

namespace AdSearch.Proofs.Text.Blank

open AdSearch.Text

/-- The code points of the blanks. -/
def blankCodes : List Nat :=
  List.range' 9 5 ++ List.range' 28 5 ++ [0x85, 0xA0, 0x1680] ++ List.range' 0x2000 11 ++
    [0x2028, 0x2029, 0x202F, 0x205F, 0x3000]

theorem toNat_mem_blankCodes {c : Char} (h : isBlank c = true) : c.toNat ∈ blankCodes := by
  simp only [isBlank, Bool.or_eq_true, Bool.and_eq_true, decide_eq_true_eq, beq_iff_eq] at h
  simp only [blankCodes, List.mem_append, List.mem_range'_1, List.mem_cons, List.not_mem_nil,
    or_false]
  omega

theorem isWord_of_isBlank {c : Char} (h : isBlank c = true) : isWord c = false := by
  have hall : ∀ n ∈ blankCodes, inRanges wordRanges n = false := by decide +kernel
  exact hall _ (toNat_mem_blankCodes h)

theorem isBlank_of_isWord {c : Char} (h : isWord c = true) : isBlank c = false := by
  cases hc : isBlank c with
  | false => rfl
  | true => exact absurd h (by simp [isWord_of_isBlank hc])

theorem caseKey_of_isBlank {c : Char} (h : isBlank c = true) : caseKey c = c := by
  have hall : ∀ n ∈ blankCodes, caseShift caseRuns n = 0 := by decide +kernel
  have hzero := hall _ (toNat_mem_blankCodes h)
  rw [caseKey, hzero, Int.add_zero, Int.toNat_natCast, Char.ofNat_toNat]

end AdSearch.Proofs.Text.Blank
