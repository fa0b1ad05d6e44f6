import AdSearch.Page
import AdSearch.Proofs.Outcome
import Mathlib.Algebra.Group.Nat.Defs

/-!
# Tokens and the pages they name

A token is read back as the offset that it was written for, as long as the offset has no more
digits than a number that is read may have.
-/

namespace AdSearch.Proofs.Page.Token

open AdSearch.Proofs.Outcome

theorem decodeToken_toString {n : Nat} (h : n < 10 ^ offsetDigitLimit) :
    decodeToken (some (toString n)) = .ok n := by
  have hlist : (toString n).toList = Nat.toDigits 10 n := by
    rw [Nat.toString_eq_repr, Nat.toList_repr]
  have hne : (Nat.toDigits 10 n).isEmpty = false := by
    simp
  have hdigits : (Nat.toDigits 10 n).all Char.isDigit = true := by
    rw [List.all_eq_true]
    intro c hc
    exact Nat.isDigit_of_mem_toDigits (by omega) (by omega) hc
  have hlength : ¬offsetDigitLimit < (Nat.toDigits 10 n).length := by
    have := (Nat.length_toDigits_le_iff (by omega) (by decide)).mpr h
    omega
  have hvalue : (Nat.toDigits 10 n).foldl (fun n c => 10 * n + (c.toNat - 48)) 0 = n :=
    Nat.ofDigitChars_ten_toDigits
  simp only [decodeToken, hlist]
  rw [hne, hdigits, if_neg hlength, hvalue]
  rfl

theorem paginate_of_decode {α : Type} (items : List α) {size : Int} (hsize : 1 ≤ size)
    {token : Option String} {offset : Nat} (htoken : decodeToken token = .ok offset) :
    paginate items size token = .ok ⟨(items.drop offset).take size.toNat,
      if offset + size.toNat < items.length then some (toString (offset + size.toNat)) else none,
      items.length⟩ := by
  unfold paginate
  rw [if_neg (by omega), htoken]
  rfl

end AdSearch.Proofs.Page.Token
