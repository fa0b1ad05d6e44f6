import AdSearch.Text.Scan
import Mathlib.Data.List.Basic
import Mathlib.Tactic.Common

/-!
# Readers on a text in parts

Each reader is described twice: what it does with a text that has the part it looks for in front,
and that every text it accepts is of this form.  A search passes over a text in pieces, `Passes`,
so that the pieces can be treated one by one.
-/

namespace AdSearch.Proofs.Text.Scan

open AdSearch.Text

/-! ## Blanks -/

/-- A non-empty run of blanks. -/
def Blanks (gap : List Char) : Prop := gap ≠ [] ∧ ∀ c ∈ gap, isBlank c = true

instance (gap : List Char) : Decidable (Blanks gap) := inferInstanceAs (Decidable (_ ∧ _))

theorem blanks_space : Blanks [' '] := by
  refine ⟨by simp, fun c hc => ?_⟩
  rw [List.mem_singleton.mp hc]
  decide

/-- Whether a blank comes next. -/
def startsBlank : List Char → Bool
  | [] => false
  | c :: _ => isBlank c

theorem trimLeft_eq_self {cs : List Char} (h : startsBlank cs = false) : trimLeft cs = cs := by
  cases cs with
  | nil => rfl
  | cons c cs =>
    have hc : ¬isBlank c = true := by simpa [startsBlank] using h
    exact List.dropWhile_cons_of_neg hc

theorem trimLeft_append {gap : List Char} (h : ∀ c ∈ gap, isBlank c = true) (cs : List Char) :
    trimLeft (gap ++ cs) = trimLeft cs :=
  List.dropWhile_append_of_pos h

theorem trimLeft_space {cs : List Char} (h : startsBlank cs = false) :
    trimLeft (' ' :: cs) = cs := by
  have happend := trimLeft_append blanks_space.2 cs
  rw [List.singleton_append] at happend
  rw [happend, trimLeft_eq_self h]

theorem startsBlank_trimLeft (cs : List Char) : startsBlank (trimLeft cs) = false := by
  induction cs with
  | nil => rfl
  | cons c cs ih =>
    by_cases hc : isBlank c = true
    · rw [trimLeft, List.dropWhile_cons_of_pos hc]
      exact ih
    · rw [trimLeft, List.dropWhile_cons_of_neg hc]
      simpa [startsBlank] using hc

theorem trimLeft_subset (cs : List Char) : trimLeft cs ⊆ cs :=
  (List.dropWhile_suffix isBlank).subset

theorem trimRight_subset (cs : List Char) : trimRight cs ⊆ cs := by
  intro c hc
  rw [trimRight, List.mem_reverse] at hc
  exact List.mem_reverse.mp ((List.dropWhile_suffix isBlank).subset hc)

theorem trim_subset (cs : List Char) : trim cs ⊆ cs :=
  List.Subset.trans (trimRight_subset _) (trimLeft_subset cs)

theorem blanks?_append {gap : List Char} (hgap : Blanks gap) (cs : List Char) :
    blanks? (gap ++ cs) = some (trimLeft cs) := by
  obtain ⟨hne, hall⟩ := hgap
  obtain ⟨c, rest, rfl⟩ := List.exists_cons_of_ne_nil hne
  have hrest : ∀ d ∈ rest, isBlank d = true := fun d hd => hall d (List.mem_cons_of_mem c hd)
  rw [List.cons_append, blanks?, if_pos (hall c List.mem_cons_self), trimLeft_append hrest]

theorem blanks?_of_not_startsBlank {cs : List Char} (h : startsBlank cs = false) :
    blanks? cs = none := by
  cases cs with
  | nil => rfl
  | cons c cs =>
    have hc : ¬isBlank c = true := by simpa [startsBlank] using h
    rw [blanks?, if_neg hc]

theorem exists_of_blanks? {cs rest : List Char} (h : blanks? cs = some rest) :
    ∃ gap, Blanks gap ∧ cs = gap ++ rest ∧ startsBlank rest = false := by
  cases cs with
  | nil => simp [blanks?] at h
  | cons c cs =>
    rw [blanks?] at h
    split at h
    · rename_i hc
      obtain rfl : trimLeft cs = rest := Option.some.inj h
      refine ⟨c :: cs.takeWhile isBlank, ⟨by simp, ?_⟩, ?_, startsBlank_trimLeft cs⟩
      · intro d hd
        rcases List.mem_cons.mp hd with rfl | hd
        · exact hc
        · exact List.all_eq_true.mp List.all_takeWhile d hd
      · rw [List.cons_append, trimLeft, List.takeWhile_append_dropWhile]
    · cases h

/-! ## Keywords and words -/

theorem letters?_append {keyword spelled : List Char} (h : sameLetters keyword spelled = true)
    (cs : List Char) : letters? keyword (spelled ++ cs) = some (spelled, cs) := by
  induction keyword generalizing spelled with
  | nil =>
    cases spelled with
    | nil => rfl
    | cons c spelled => simp [sameLetters] at h
  | cons k keyword ih =>
    cases spelled with
    | nil => simp [sameLetters] at h
    | cons c spelled =>
      simp only [sameLetters, List.map_cons, beq_iff_eq, List.cons.injEq] at h ih
      rw [List.cons_append, letters?, if_pos (by simpa [sameLetter] using h.1), ih h.2]
      rfl

theorem exists_of_letters? {keyword cs spelled rest : List Char}
    (h : letters? keyword cs = some (spelled, rest)) :
    cs = spelled ++ rest ∧ sameLetters keyword spelled = true := by
  induction keyword generalizing cs spelled with
  | nil =>
    simp only [letters?, Option.some.injEq, Prod.mk.injEq] at h
    obtain ⟨rfl, rfl⟩ := h
    exact ⟨rfl, rfl⟩
  | cons k keyword ih =>
    cases cs with
    | nil => simp [letters?] at h
    | cons c cs =>
      rw [letters?] at h
      split at h
      · rename_i hc
        rw [Option.map_eq_some_iff] at h
        obtain ⟨⟨spelled', rest'⟩, hread, hpair⟩ := h
        obtain ⟨rfl, rfl⟩ := Prod.mk.inj hpair
        obtain ⟨rfl, hsame⟩ := ih hread
        have hkeys : caseKey k = caseKey c := by simpa [sameLetter] using hc
        refine ⟨rfl, ?_⟩
        simp only [sameLetters, beq_iff_eq] at hsame
        simp [sameLetters, hkeys, hsame]
      · cases h

/-- A keyword is not read where its first letter does not stand. -/
theorem letters?_cons_of_ne {k c : Char} (h : sameLetter k c = false) (keyword cs : List Char) :
    letters? (k :: keyword) (c :: cs) = none := by
  rw [letters?, h]
  rfl

theorem word?_append {w : List Char} (hne : w ≠ []) (hw : ∀ c ∈ w, isWord c = true)
    {cs : List Char} (hcs : startsWord cs = false) : word? (w ++ cs) = some (w, cs) := by
  have hstop : cs.takeWhile isWord = [] ∧ cs.dropWhile isWord = cs := by
    cases cs with
    | nil => exact ⟨rfl, rfl⟩
    | cons c cs =>
      have hc : ¬isWord c = true := by simpa [startsWord] using hcs
      exact ⟨List.takeWhile_cons_of_neg hc, List.dropWhile_cons_of_neg hc⟩
  unfold word?
  rw [List.takeWhile_append_of_pos hw, List.dropWhile_append_of_pos hw, hstop.1, hstop.2,
    List.append_nil]
  cases w with
  | nil => exact absurd rfl hne
  | cons c w => rfl

theorem exists_of_word? {cs w rest : List Char} (h : word? cs = some (w, rest)) :
    w ≠ [] ∧ (∀ c ∈ w, isWord c = true) ∧ cs = w ++ rest := by
  unfold word? at h
  split at h
  · cases h
  · rename_i hne
    obtain ⟨rfl, rfl⟩ := Prod.mk.inj (Option.some.inj h)
    refine ⟨hne, ?_, List.takeWhile_append_dropWhile.symm⟩
    intro c hc
    exact List.all_eq_true.mp List.all_takeWhile c hc

theorem startsWord_dropWhile (cs : List Char) : startsWord (cs.dropWhile isWord) = false := by
  cases hrest : cs.dropWhile isWord with
  | nil => rfl
  | cons c rest =>
    have hhead := List.head?_dropWhile_not isWord cs
    rw [hrest] at hhead
    simpa [startsWord] using hhead

/-- A run of word characters is read as far as it goes. -/
theorem startsWord_of_word? {cs w rest : List Char} (h : word? cs = some (w, rest)) :
    startsWord rest = false := by
  unfold word? at h
  split at h
  · cases h
  · obtain ⟨-, rfl⟩ := Prod.mk.inj (Option.some.inj h)
    exact startsWord_dropWhile cs

theorem upTo?_append {mark : Char} {inner : List Char} (h : mark ∉ inner) (cs : List Char) :
    upTo? mark (inner ++ mark :: cs) = some (inner, cs) := by
  induction inner with
  | nil => simp [upTo?]
  | cons c inner ih =>
    rw [List.mem_cons, not_or] at h
    have hc : (c == mark) = false := by simpa using Ne.symm h.1
    rw [List.cons_append, upTo?, hc, ih h.2]
    rfl

theorem exists_of_upTo? {mark : Char} {cs before rest : List Char}
    (h : upTo? mark cs = some (before, rest)) : mark ∉ before ∧ cs = before ++ mark :: rest := by
  induction cs generalizing before with
  | nil => cases h
  | cons c cs ih =>
    rw [upTo?] at h
    split at h
    · rename_i hc
      obtain ⟨rfl, rfl⟩ := Prod.mk.inj (Option.some.inj h)
      exact ⟨by simp, by rw [beq_iff_eq.mp hc, List.nil_append]⟩
    · rename_i hc
      obtain ⟨⟨before', rest'⟩, hread, hpair⟩ := Option.map_eq_some_iff.mp h
      obtain ⟨rfl, rfl⟩ := Prod.mk.inj hpair
      obtain ⟨hmark, rfl⟩ := ih hread
      refine ⟨?_, rfl⟩
      rw [List.mem_cons, not_or]
      exact ⟨fun heq => hc (beq_iff_eq.mpr heq.symm), hmark⟩

theorem eq_cons_of_char? {mark : Char} {cs rest : List Char} (h : char? mark cs = some rest) :
    cs = mark :: rest := by
  cases cs with
  | nil => cases h
  | cons c cs =>
    rw [char?] at h
    split at h
    · rename_i hc
      rw [beq_iff_eq.mp hc, Option.some.inj h]
    · cases h

/-! ## Searches -/

/-- Whether the last character that was passed is a word character, where `afterWord` tells what
stands before the text. -/
def endsWord : Bool → List Char → Bool
  | afterWord, [] => afterWord
  | _, c :: cs => endsWord (isWord c) cs

variable {α : Type} {here? : Bool → List Char → Option α}

/-- A search for `here?` finds nothing at any place of `xs`, when `ys` follows. -/
def Passes (here? : Bool → List Char → Option α) : Bool → List Char → List Char → Prop
  | _, [], _ => True
  | afterWord, c :: cs, ys =>
    here? afterWord (c :: (cs ++ ys)) = none ∧ Passes here? (isWord c) cs ys

theorem endsWord_append (afterWord : Bool) (xs ys : List Char) :
    endsWord afterWord (xs ++ ys) = endsWord (endsWord afterWord xs) ys := by
  induction xs generalizing afterWord with
  | nil => rfl
  | cons c xs ih => exact ih (isWord c)

theorem passes_append {afterWord : Bool} {xs ys zs : List Char} :
    Passes here? afterWord (xs ++ ys) zs ↔
      Passes here? afterWord xs (ys ++ zs) ∧ Passes here? (endsWord afterWord xs) ys zs := by
  induction xs generalizing afterWord with
  | nil => simp [Passes, endsWord]
  | cons c xs ih =>
    simp only [List.cons_append, Passes, List.append_assoc, endsWord, ih, and_assoc]

theorem find?_of_passes {afterWord : Bool} {xs : List Char} (ys : List Char)
    (h : Passes here? afterWord xs ys) :
    find? here? afterWord (xs ++ ys) =
      (find? here? (endsWord afterWord xs) ys).map fun (before, a) => (xs ++ before, a) := by
  induction xs generalizing afterWord with
  | nil =>
    rw [List.nil_append, endsWord]
    cases find? here? afterWord ys <;> rfl
  | cons c xs ih =>
    obtain ⟨hnone, hrest⟩ := h
    rw [List.cons_append, find?, hnone, ih hrest, endsWord]
    cases find? here? (endsWord (isWord c) xs) ys <;> rfl

/-- The search ends where the reader succeeds after a text that it passes. -/
theorem find?_of_here {afterWord : Bool} {cs : List Char} {a : α}
    (h : here? afterWord cs = some a) : find? here? afterWord cs = some ([], a) := by
  cases cs with
  | nil =>
    rw [find?, h]
    rfl
  | cons c cs => rw [find?, h]

theorem find?_eq_some {afterWord : Bool} {xs ys : List Char} {a : α}
    (hpass : Passes here? afterWord xs ys) (ha : here? (endsWord afterWord xs) ys = some a) :
    find? here? afterWord (xs ++ ys) = some (xs, a) := by
  rw [find?_of_passes ys hpass, find?_of_here ha]
  simp

theorem find?_eq_none {afterWord : Bool} {xs : List Char} (hpass : Passes here? afterWord xs [])
    (hend : here? (endsWord afterWord xs) [] = none) : find? here? afterWord xs = none := by
  have h := find?_of_passes [] hpass
  rw [List.append_nil] at h
  rw [h, find?, hend]
  rfl

theorem find?_cons_eq_none {afterWord : Bool} {c : Char} {cs : List Char}
    (h : find? here? afterWord (c :: cs) = none) :
    here? afterWord (c :: cs) = none ∧ find? here? (isWord c) cs = none := by
  rw [find?] at h
  cases hhere : here? afterWord (c :: cs) with
  | some a => simp [hhere] at h
  | none => exact ⟨rfl, by simpa [hhere] using h⟩

/-- A search passes over the text before the place that it finds. -/
theorem passes_of_find? {afterWord : Bool} {cs before : List Char} {a : α}
    (h : find? here? afterWord cs = some (before, a)) :
    ∃ rest, cs = before ++ rest ∧ Passes here? afterWord before rest ∧
      here? (endsWord afterWord before) rest = some a := by
  induction cs generalizing afterWord before with
  | nil =>
    obtain ⟨a', ha, hpair⟩ := Option.map_eq_some_iff.mp h
    obtain ⟨rfl, rfl⟩ := Prod.mk.inj hpair
    exact ⟨[], rfl, trivial, ha⟩
  | cons c cs ih =>
    rw [find?] at h
    split at h
    · rename_i a' ha
      obtain ⟨rfl, rfl⟩ := Prod.mk.inj (Option.some.inj h)
      exact ⟨c :: cs, rfl, trivial, ha⟩
    · rename_i hnone
      obtain ⟨⟨before', a'⟩, hread, hpair⟩ := Option.map_eq_some_iff.mp h
      obtain ⟨rfl, rfl⟩ := Prod.mk.inj hpair
      obtain ⟨rest, rfl, hpasses, ha⟩ := ih hread
      exact ⟨rest, rfl, ⟨hnone, hpasses⟩, ha⟩

theorem exists_of_find? {afterWord : Bool} {cs before : List Char} {a : α}
    (h : find? here? afterWord cs = some (before, a)) :
    ∃ rest, cs = before ++ rest ∧ here? (endsWord afterWord before) rest = some a := by
  obtain ⟨rest, hcs, -, ha⟩ := passes_of_find? h
  exact ⟨rest, hcs, ha⟩

/-- What is passed over has no place where the reader succeeds. -/
theorem here?_of_passes {afterWord : Bool} {xs ys : List Char} {c : Char} {zs : List Char}
    (h : Passes here? afterWord (xs ++ c :: ys) zs) :
    here? (endsWord afterWord xs) (c :: (ys ++ zs)) = none :=
  (passes_append.mp h).2.1

/-- A search succeeds if the reader does at some place. -/
theorem isSome_find?_append {afterWord : Bool} {before rest : List Char}
    (h : (here? (endsWord afterWord before) rest).isSome = true) :
    (find? here? afterWord (before ++ rest)).isSome = true := by
  induction before generalizing afterWord with
  | nil =>
    obtain ⟨a, ha⟩ := Option.isSome_iff_exists.mp h
    exact Option.isSome_of_eq_some (find?_of_here ha)
  | cons c before ih =>
    rw [List.cons_append, find?]
    split
    · rfl
    · rw [Option.isSome_map]
      exact ih h

/-! ## First places -/

/-- Between `before` and `rest` is the first place of a text at which `P` holds for some `a`.  It is
told, as a reader is, whether the place comes right after a word character. -/
structure First (P : Bool → List Char → α → Prop) (afterWord : Bool)
    (before rest : List Char) (a : α) : Prop where
  holds : P (endsWord afterWord before) rest a
  not_before : ∀ xs c ys, before = xs ++ c :: ys →
    ¬∃ a', P (endsWord afterWord xs) (c :: (ys ++ rest)) a'

variable {P : Bool → List Char → α → Prop}

theorem passes_of_forall {afterWord : Bool} {before rest : List Char}
    (h : ∀ xs c ys, before = xs ++ c :: ys →
      here? (endsWord afterWord xs) (c :: (ys ++ rest)) = none) :
    Passes here? afterWord before rest := by
  induction before generalizing afterWord with
  | nil => trivial
  | cons c before ih =>
    refine ⟨h [] c before rfl, ih fun xs d ys hsplit => ?_⟩
    exact h (c :: xs) d ys (by rw [hsplit, List.cons_append])

/-- A search finds the first place of what its reader reads. -/
theorem find?_eq_some_iff (hhere : ∀ afterWord cs a, here? afterWord cs = some a ↔ P afterWord cs a)
    {afterWord : Bool} {cs before : List Char} {a : α} :
    find? here? afterWord cs = some (before, a) ↔
      ∃ rest, cs = before ++ rest ∧ First P afterWord before rest a := by
  constructor
  · intro h
    obtain ⟨rest, rfl, hpasses, hread⟩ := passes_of_find? h
    refine ⟨rest, rfl, (hhere _ _ a).mp hread, ?_⟩
    rintro xs c ys rfl ⟨a', ha'⟩
    rw [← hhere, here?_of_passes hpasses] at ha'
    cases ha'
  · rintro ⟨rest, rfl, hholds, hnot⟩
    refine find?_eq_some (passes_of_forall fun xs c ys hsplit => ?_) ((hhere _ _ a).mpr hholds)
    rw [Option.eq_none_iff_forall_ne_some]
    intro a' ha'
    exact hnot xs c ys hsplit ⟨a', (hhere _ _ a').mp ha'⟩

end AdSearch.Proofs.Text.Scan
