import AdSearch.Text.Scan
import Mathlib.Data.List.Basic
import Mathlib.Tactic.Common

/-!
# Which letters are the same in some case

The table of cases is turned round: `sources` lists the code points that a representative comes
from.  Of the letters in the word operators, `I` and `K` have a case outside ASCII whose upper case
is not ASCII either.
-/

namespace AdSearch.Proofs.Text.Case

open AdSearch.Text

/-! ## The table turned round -/

theorem caseShift_cases (runs : List CaseRun) (n : Nat) :
    caseShift runs n = 0 ∨
      ∃ run ∈ runs, run.first ≤ n ∧ n ≤ run.last ∧ caseShift runs n = run.shift := by
  induction runs with
  | nil => exact Or.inl rfl
  | cons run rest ih =>
    rw [caseShift]
    split
    · exact Or.inl rfl
    · rename_i hfirst
      split
      · rename_i hlast
        rw [Bool.and_eq_true, decide_eq_true_eq] at hlast
        exact Or.inr ⟨run, by simp, by omega, hlast.1, rfl⟩
      · rcases ih with hzero | ⟨run', hrun', hbounds⟩
        · exact Or.inl hzero
        · exact Or.inr ⟨run', List.mem_cons_of_mem run hrun', hbounds⟩

/-- The code points that may move to `target`, apart from itself. -/
def sources (runs : List CaseRun) (target : Nat) : List Nat :=
  runs.filterMap fun run =>
    let n := ((target : Int) - run.shift).toNat
    if run.first ≤ n ∧ n ≤ run.last then some n else none

theorem toNat_eq_of_ofNat_eq {n : Nat} {c : Char} (hc : c ≠ Char.ofNat 0)
    (h : Char.ofNat n = c) : n = c.toNat := by
  by_cases hn : n.isValidChar
  · rw [← h, Char.ofNat, dif_pos hn]
    rfl
  · have hzero : Char.ofNat n = Char.ofNat 0 := by
      rw [Char.ofNat, dif_neg hn]
      rfl
    exact absurd (h.symm.trans hzero) hc

theorem toNat_mem_of_caseKey_eq {c k : Char} (hk : k ≠ Char.ofNat 0) (h : caseKey c = k) :
    c.toNat = k.toNat ∨ c.toNat ∈ sources caseRuns k.toNat := by
  have hmove := toNat_eq_of_ofNat_eq hk h
  have hpos : k.toNat ≠ 0 := by
    intro hzero
    exact hk (by rw [← hzero, Char.ofNat_toNat])
  rcases caseShift_cases caseRuns c.toNat with hzero | ⟨run, hrun, hfirst, hlast, hshift⟩
  · rw [hzero] at hmove
    exact Or.inl (by omega)
  · rw [hshift] at hmove
    refine Or.inr (List.mem_filterMap.mpr ⟨run, hrun, ?_⟩)
    have hback : ((k.toNat : Int) - run.shift).toNat = c.toNat := by omega
    simp only [hback]
    rw [if_pos ⟨hfirst, hlast⟩]

/-- The characters that may have `k` as their representative. -/
def casesOf (k : Char) : List Char := (k.toNat :: sources caseRuns k.toNat).map Char.ofNat

theorem mem_casesOf {c k : Char} (hk : k ≠ Char.ofNat 0) (h : caseKey c = k) : c ∈ casesOf k := by
  have hmem : c.toNat ∈ k.toNat :: sources caseRuns k.toNat := by
    rw [List.mem_cons]
    exact toNat_mem_of_caseKey_eq hk h
  have hc : Char.ofNat c.toNat ∈ casesOf k := List.mem_map_of_mem hmem
  rwa [Char.ofNat_toNat] at hc

/-! ## The letters of the word operators -/

/-- The letters of `NOT`, `IN` and `LIKE`. -/
def operatorLetters : List Char := ['N', 'O', 'T', 'I', 'L', 'K', 'E']

/-- The dotted capital `I` and the kelvin sign, which are cases of `I` and `K`. -/
def foreignLetters : List Char := ['\u0130', '\u212A']

theorem upperLetters_of_sameLetter {k c : Char} (hk : k ∈ operatorLetters)
    (h : sameLetter k c = true) : c ∈ foreignLetters ∨ upperLetters c = [k] := by
  have hall : operatorLetters.all (fun k => caseKey k != Char.ofNat 0 &&
      (casesOf (caseKey k)).all fun c => foreignLetters.contains c || upperLetters c == [k]) =
        true := by decide
  have hletter := List.all_eq_true.mp hall k hk
  rw [Bool.and_eq_true, bne_iff_ne] at hletter
  have hkey : caseKey c = caseKey k := by
    rw [sameLetter, beq_iff_eq] at h
    exact h.symm
  have hcase := List.all_eq_true.mp hletter.2 c (mem_casesOf hletter.1 hkey)
  simpa using hcase

theorem upperLetters_of_mem_foreignLetters {c : Char} (h : c ∈ foreignLetters) :
    upperLetters c = [c] := by
  have hall : foreignLetters.all (fun c => upperLetters c == [c]) = true := by decide
  simpa using List.all_eq_true.mp hall c h

theorem mem_upper_of_mem_foreignLetters {c : Char} {w : List Char} (hc : c ∈ foreignLetters)
    (hw : c ∈ w) : c ∈ upper w :=
  List.mem_flatMap.mpr ⟨c, hw, by simp [upperLetters_of_mem_foreignLetters hc]⟩

theorem sameLetters_cons {k : Char} {keyword w : List Char} :
    sameLetters (k :: keyword) w = true ↔
      ∃ c rest, w = c :: rest ∧ sameLetter k c = true ∧ sameLetters keyword rest = true := by
  cases w with
  | nil => simp [sameLetters]
  | cons c rest => simp [sameLetters, sameLetter]

theorem sameLetters_nil {w : List Char} : sameLetters [] w = true ↔ w = [] := by
  cases w <;> simp [sameLetters]

/-- A keyword of operator letters is spelled with a foreign letter, or has itself as its upper
case. -/
theorem upper_of_sameLetters {keyword w : List Char} (hk : keyword ⊆ operatorLetters)
    (h : sameLetters keyword w = true) : (∃ c ∈ w, c ∈ foreignLetters) ∨ upper w = keyword := by
  induction keyword generalizing w with
  | nil =>
    rw [sameLetters_nil] at h
    exact Or.inr (by rw [h]; rfl)
  | cons k keyword ih =>
    obtain ⟨c, rest, rfl, hc, hrest⟩ := sameLetters_cons.mp h
    rcases upperLetters_of_sameLetter (hk List.mem_cons_self) hc with hforeign | hc
    · exact Or.inl ⟨c, List.mem_cons_self, hforeign⟩
    rcases ih (fun k' hk' => hk (List.mem_cons_of_mem k hk')) hrest with hforeign | hrest
    · obtain ⟨d, hd, hforeign⟩ := hforeign
      exact Or.inl ⟨d, List.mem_cons_of_mem c hd, hforeign⟩
    · apply Or.inr
      change upperLetters c ++ upper rest = k :: keyword
      rw [hc, hrest, List.singleton_append]

/-! ## Letters of ASCII -/

/-- The capital letters of ASCII. -/
def capitals : List Char := (List.range' 65 26).map Char.ofNat

/-- The small letters of ASCII. -/
def smalls : List Char := (List.range' 97 26).map Char.ofNat

theorem mem_letters {first : Nat} {c : Char} (hfirst : first ≤ c.toNat)
    (hlast : c.toNat < first + 26) : c ∈ (List.range' first 26).map Char.ofNat := by
  have hmem : c.toNat ∈ List.range' first 26 := by
    rw [List.mem_range'_1]
    exact ⟨hfirst, hlast⟩
  have hc : Char.ofNat c.toNat ∈ (List.range' first 26).map Char.ofNat :=
    List.mem_map_of_mem hmem
  rwa [Char.ofNat_toNat] at hc

theorem mem_smalls_or_toUpper_eq (c : Char) : c ∈ smalls ∨ c.toUpper = c := by
  by_cases hc : 'a'.val ≤ c.val ∧ c.val ≤ 'z'.val
  · rw [UInt32.le_iff_toNat_le, UInt32.le_iff_toNat_le] at hc
    exact Or.inl (mem_letters hc.1 (Nat.lt_succ_of_le hc.2))
  · exact Or.inr (dif_neg hc)

theorem mem_capitals_or_toLower_eq (c : Char) : c ∈ capitals ∨ c.toLower = c := by
  by_cases hc : c.val ≥ 'A'.val ∧ c.val ≤ 'Z'.val
  · rw [ge_iff_le, UInt32.le_iff_toNat_le, UInt32.le_iff_toNat_le] at hc
    exact Or.inl (mem_letters hc.1 (Nat.lt_succ_of_le hc.2))
  · exact Or.inr (dif_neg hc)

theorem sameLetter_toLower (c : Char) : sameLetter c.toLower c = true := by
  have hall : capitals.all (fun c => sameLetter c.toLower c) = true := by decide
  rcases mem_capitals_or_toLower_eq c with hc | hc
  · exact List.all_eq_true.mp hall c hc
  · rw [hc]
    exact beq_self_eq_true _

/-- What makes an ASCII letter a case of a capital. -/
theorem of_toUpper_mem_capitals {c : Char} (h : c.toUpper ∈ capitals) :
    sameLetter c.toUpper c = true ∧ isWord c = true ∧ upperLetters c = [c.toUpper] := by
  have hall : (capitals ++ smalls).all (fun c => sameLetter c.toUpper c && isWord c &&
      upperLetters c == [c.toUpper]) = true := by decide
  have hmem : c ∈ capitals ++ smalls := by
    rcases mem_smalls_or_toUpper_eq c with hc | hc
    · exact List.mem_append_right _ hc
    · rw [hc] at h
      exact List.mem_append_left _ h
  have hletter := List.all_eq_true.mp hall c hmem
  simpa only [Bool.and_eq_true, beq_iff_eq, and_assoc] using hletter

/-- Every case of a capital letter is a word character. -/
theorem isWord_of_sameLetter {k c : Char} (hk : k ∈ capitals) (h : sameLetter k c = true) :
    isWord c = true := by
  have hall : capitals.all (fun k => caseKey k != Char.ofNat 0 &&
      (casesOf (caseKey k)).all isWord) = true := by decide +kernel
  have hletter := List.all_eq_true.mp hall k hk
  rw [Bool.and_eq_true, bne_iff_ne] at hletter
  have hkey : caseKey c = caseKey k := by
    rw [sameLetter, beq_iff_eq] at h
    exact h.symm
  exact List.all_eq_true.mp hletter.2 c (mem_casesOf hletter.1 hkey)

theorem isWord_of_sameLetters {keyword w : List Char} (hkeyword : ∀ k ∈ keyword, k ∈ capitals)
    (h : sameLetters keyword w = true) : ∀ c ∈ w, isWord c = true := by
  induction keyword generalizing w with
  | nil =>
    rw [sameLetters_nil.mp h]
    simp
  | cons k keyword ih =>
    obtain ⟨c, rest, rfl, hc, hrest⟩ := sameLetters_cons.mp h
    rw [List.forall_mem_cons] at hkeyword ⊢
    exact ⟨isWord_of_sameLetter hkeyword.1 hc, ih hkeyword.2 hrest⟩

end AdSearch.Proofs.Text.Case
