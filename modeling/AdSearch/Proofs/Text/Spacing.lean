import AdSearch.Proofs.Text.Scan

/-!
# Texts that are spaced already

`spaced` runs over a text and fails at a blank that collapsing would change.  What it keeps is all
that the next character needs to know, so a text can be checked part by part.
-/

namespace AdSearch.Proofs.Text.Spacing

open AdSearch.Text AdSearch.Proofs.Text.Scan

/-! ## Words, one character at a time -/

/-- Puts a character in front of the first word. -/
def consFirst (c : Char) : List (List Char) → List (List Char)
  | w :: ws => (c :: w) :: ws
  | [] => [[c]]

theorem words_of_isBlank {c : Char} (h : isBlank c = true) (cs : List Char) :
    words (c :: cs) = words cs := by
  rw [words, if_pos h]

theorem words_ne_nil {c : Char} (h : isBlank c = false) (cs : List Char) :
    words (c :: cs) ≠ [] := by
  have hc : ¬isBlank c = true := by simp [h]
  rw [words, if_neg hc]
  split
  · split <;> simp
  · simp

theorem words_of_not_isBlank {c : Char} (h : isBlank c = false) (cs : List Char) :
    words (c :: cs) = if startsBlank cs then [c] :: words cs else consFirst c (words cs) := by
  have hc : ¬isBlank c = true := by simp [h]
  cases cs with
  | nil => simp [words, startsBlank, consFirst, h]
  | cons d cs =>
    rw [words, if_neg hc, List.head?_cons, startsBlank]
    by_cases hd : isBlank d = true
    · cases hwords : words (d :: cs) <;> simp [hd]
    · have hd' : isBlank d = false := by simpa using hd
      obtain ⟨w, ws, hwords⟩ := List.exists_cons_of_ne_nil (words_ne_nil hd' cs)
      simp [hwords, hd, consFirst]

theorem words_append_of_blanks {gap : List Char} (h : ∀ c ∈ gap, isBlank c = true)
    (cs : List Char) : words (gap ++ cs) = words cs := by
  induction gap with
  | nil => rfl
  | cons c gap ih =>
    rw [List.cons_append, words_of_isBlank (h c List.mem_cons_self)]
    exact ih fun d hd => h d (List.mem_cons_of_mem c hd)

/-- Texts with the same words, of which both or none start with a blank. -/
def SameWords (xs ys : List Char) : Prop :=
  words xs = words ys ∧ startsBlank xs = startsBlank ys

theorem SameWords.append_left {xs ys : List Char} (h : SameWords xs ys) (zs : List Char) :
    SameWords (zs ++ xs) (zs ++ ys) := by
  induction zs with
  | nil => exact h
  | cons c zs ih =>
    obtain ⟨hwords, hstarts⟩ := ih
    refine ⟨?_, rfl⟩
    by_cases hc : isBlank c = true
    · rw [List.cons_append, List.cons_append, words_of_isBlank hc, words_of_isBlank hc, hwords]
    · have hc' : isBlank c = false := by simpa using hc
      rw [List.cons_append, List.cons_append, words_of_not_isBlank hc', words_of_not_isBlank hc',
        hwords, hstarts]

theorem SameWords.of_blanks {gap gap' xs ys : List Char} (hgap : Blanks gap) (hgap' : Blanks gap')
    (h : words xs = words ys) : SameWords (gap ++ xs) (gap' ++ ys) := by
  refine ⟨?_, ?_⟩
  · rw [words_append_of_blanks hgap.2, words_append_of_blanks hgap'.2, h]
  · obtain ⟨c, rest, rfl⟩ := List.exists_cons_of_ne_nil hgap.1
    obtain ⟨c', rest', rfl⟩ := List.exists_cons_of_ne_nil hgap'.1
    have hc := hgap.2 c List.mem_cons_self
    have hc' := hgap'.2 c' List.mem_cons_self
    simp [startsBlank, hc, hc']

/-! ## Words with single spaces -/

theorem ne_nil_of_mem_words {cs w : List Char} (h : w ∈ words cs) : w ≠ [] := by
  induction cs generalizing w with
  | nil => cases h
  | cons c cs ih =>
    by_cases hc : isBlank c = true
    · rw [words_of_isBlank hc] at h
      exact ih h
    · have hc' : isBlank c = false := by simpa using hc
      rw [words_of_not_isBlank hc'] at h
      split at h
      · rcases List.mem_cons.mp h with rfl | h
        · simp
        · exact ih h
      · cases hwords : words cs with
        | nil =>
          rw [hwords, consFirst, List.mem_singleton] at h
          simp [h]
        | cons first rest =>
          rw [hwords, consFirst] at h
          rcases List.mem_cons.mp h with rfl | h
          · simp
          · exact ih (hwords ▸ List.mem_cons_of_mem first h)

/-- The words of a text with one space between neighbours. -/
def joinedWords (cs : List Char) : List Char := List.intercalate [' '] (words cs)

theorem joinedWords_eq_nil_iff (cs : List Char) : joinedWords cs = [] ↔ words cs = [] := by
  refine ⟨fun h => ?_, fun h => by simp [joinedWords, h]⟩
  cases hwords : words cs with
  | nil => rfl
  | cons w ws =>
    have hw : w ≠ [] := ne_nil_of_mem_words (hwords ▸ List.mem_cons_self)
    rw [joinedWords, hwords] at h
    cases ws with
    | nil => simp [hw] at h
    | cons w' ws => simp [List.intercalate_cons_of_ne_nil] at h

theorem joinedWords_cons_of_startsBlank {c : Char} {cs : List Char} (hc : isBlank c = false)
    (hstarts : startsBlank cs = true) :
    joinedWords (c :: cs) = c :: if words cs = [] then [] else ' ' :: joinedWords cs := by
  rw [joinedWords, words_of_not_isBlank hc, if_pos hstarts, joinedWords]
  split
  · rename_i hnil
    rw [hnil, List.intercalate_singleton]
  · rename_i hne
    rw [List.intercalate_cons_of_ne_nil hne]
    rfl

theorem joinedWords_cons_of_not_startsBlank {c : Char} {cs : List Char} (hc : isBlank c = false)
    (hstarts : startsBlank cs = false) : joinedWords (c :: cs) = c :: joinedWords cs := by
  rw [joinedWords, words_of_not_isBlank hc, if_neg (by simp [hstarts]), joinedWords]
  cases words cs with
  | nil => rfl
  | cons w ws => cases ws <;> simp [consFirst, List.intercalate]

theorem trimRight_cons (c : Char) (cs : List Char) :
    trimRight (c :: cs) =
      if trimRight cs = [] then if isBlank c then [] else [c] else c :: trimRight cs := by
  rw [trimRight, List.reverse_cons, List.dropWhile_append, trimRight]
  by_cases hnil : cs.reverse.dropWhile isBlank = []
  · by_cases hc : isBlank c = true <;> simp [hnil, hc]
  · rw [if_neg (by simpa using hnil), if_neg (by simpa using hnil)]
    simp

theorem trimRight_cons_of_not_blank {c : Char} (h : isBlank c = false) (cs : List Char) :
    trimRight (c :: cs) = c :: trimRight cs := by
  rw [trimRight_cons, h]
  split
  · rename_i hnil
    rw [hnil]
    rfl
  · rfl

theorem trimLeft_squeeze (afterBlank : Bool) (cs : List Char) :
    trimLeft (squeeze afterBlank cs) = squeeze true cs := by
  induction cs generalizing afterBlank with
  | nil => rfl
  | cons c cs ih =>
    by_cases hc : isBlank c = true
    · rw [squeeze, squeeze, if_pos hc, if_pos hc, if_pos rfl]
      cases afterBlank with
      | true => exact ih true
      | false =>
        have hspace : isBlank ' ' = true := by decide
        rw [if_neg (by simp), trimLeft, List.dropWhile_cons_of_pos hspace]
        exact ih true
    · rw [squeeze, squeeze, if_neg hc, if_neg hc, trimLeft, List.dropWhile_cons_of_neg hc]

/-- Without the blanks at its end, a squeezed text has its words joined; a space comes before them
if the text starts with blanks. -/
theorem trimRight_squeeze (afterBlank : Bool) (cs : List Char) :
    trimRight (squeeze afterBlank cs) =
      if afterBlank = false ∧ startsBlank cs = true ∧ words cs ≠ [] then ' ' :: joinedWords cs
      else joinedWords cs := by
  induction cs generalizing afterBlank with
  | nil => cases afterBlank <;> rfl
  | cons c cs ih =>
    by_cases hc : isBlank c = true
    · have hjoined : joinedWords (c :: cs) = joinedWords cs := by
        rw [joinedWords, words_of_isBlank hc, joinedWords]
      rw [squeeze, if_pos hc, hjoined, words_of_isBlank hc]
      cases afterBlank with
      | true => simpa using ih true
      | false =>
        have hspace : isBlank ' ' = true := by decide
        have hrest : trimRight (squeeze true cs) = joinedWords cs := by simpa using ih true
        rw [if_neg (by simp), trimRight_cons, hrest, if_pos hspace]
        by_cases hwords : words cs = []
        · simp [(joinedWords_eq_nil_iff cs).mpr hwords, hwords]
        · have hne := mt (joinedWords_eq_nil_iff cs).mp hwords
          rw [if_neg hne, if_pos ⟨rfl, hc, hwords⟩]
    · have hc' : isBlank c = false := by simpa using hc
      have hnot : ¬(afterBlank = false ∧ startsBlank (c :: cs) = true ∧ words (c :: cs) ≠ []) :=
        fun h => hc h.2.1
      rw [squeeze, if_neg hc, trimRight_cons_of_not_blank hc', ih false, if_neg hnot]
      by_cases hstarts : startsBlank cs = true
      · rw [joinedWords_cons_of_startsBlank hc' hstarts]
        by_cases hwords : words cs = []
        · simp [hwords, (joinedWords_eq_nil_iff cs).mpr hwords]
        · simp [hwords, hstarts]
      · rw [joinedWords_cons_of_not_startsBlank hc' (by simpa using hstarts),
          if_neg fun h => hstarts h.2.1]

/-- Collapsing a text joins its words. -/
theorem collapse_eq_joinedWords (cs : List Char) : collapse cs = joinedWords cs := by
  rw [collapse, trim, trimLeft_squeeze, trimRight_squeeze, if_neg (by simp)]

theorem collapse_congr {xs ys : List Char} (h : words xs = words ys) : collapse xs = collapse ys := by
  rw [collapse_eq_joinedWords, collapse_eq_joinedWords, joinedWords, joinedWords, h]

/-! ## Spaced texts -/

/-- Whether a text ends in a blank, or is at its start, when all its blanks are single spaces; the
flag tells this of the text before. -/
def spaced : Bool → List Char → Option Bool
  | afterBlank, [] => some afterBlank
  | afterBlank, c :: cs =>
    if isBlank c then if c == ' ' && !afterBlank then spaced true cs else none
    else spaced false cs

theorem spaced_append (afterBlank : Bool) (xs ys : List Char) :
    spaced afterBlank (xs ++ ys) = (spaced afterBlank xs).bind fun flag => spaced flag ys := by
  induction xs generalizing afterBlank with
  | nil => rfl
  | cons c xs ih =>
    rw [List.cons_append, spaced, spaced]
    split
    · split
      · exact ih true
      · rfl
    · exact ih false

theorem spaced_of_no_blank {w : List Char} (hne : w ≠ []) (hw : ∀ c ∈ w, isBlank c = false)
    (afterBlank : Bool) : spaced afterBlank w = some false := by
  induction w generalizing afterBlank with
  | nil => exact absurd rfl hne
  | cons c w ih =>
    have hc : ¬isBlank c = true := by simp [hw c List.mem_cons_self]
    rw [spaced, if_neg hc]
    cases w with
    | nil => rfl
    | cons d w => exact ih (by simp) (fun e he => hw e (List.mem_cons_of_mem c he)) false

theorem collapse_cons_of_blank {c d : Char} {cs : List Char} (hc : isBlank c = false)
    (hd : isBlank d = true) (hne : words cs ≠ []) :
    collapse (c :: d :: cs) = c :: ' ' :: collapse cs := by
  have hstarts : startsBlank (d :: cs) = true := hd
  have hjoined : joinedWords (d :: cs) = joinedWords cs := by
    rw [joinedWords, words_of_isBlank hd, joinedWords]
  rw [collapse_eq_joinedWords, joinedWords_cons_of_startsBlank hc hstarts, words_of_isBlank hd,
    if_neg hne, hjoined, collapse_eq_joinedWords]

theorem collapse_cons_of_not_blank {c d : Char} {cs : List Char} (hc : isBlank c = false)
    (hd : isBlank d = false) : collapse (c :: d :: cs) = c :: collapse (d :: cs) := by
  have hstarts : startsBlank (d :: cs) = false := hd
  rw [collapse_eq_joinedWords, joinedWords_cons_of_not_startsBlank hc hstarts,
    collapse_eq_joinedWords]

/-- A text of single spaces that neither starts nor ends with one is collapsed. -/
theorem collapse_of_spaced {cs : List Char} (h : spaced true cs = some false) :
    words cs ≠ [] ∧ collapse cs = cs := by
  -- on the length, since a blank and the character before it are taken off together
  induction hn : cs.length using Nat.strongRecOn generalizing cs with
  | ind n ih =>
    cases cs with
    | nil => simp [spaced] at h
    | cons c cs =>
      rw [spaced] at h
      split at h
      · simp at h
      rename_i hc
      have hc' : isBlank c = false := by simpa using hc
      refine ⟨words_ne_nil hc' cs, ?_⟩
      cases cs with
      | nil =>
        rw [collapse_eq_joinedWords, joinedWords_cons_of_not_startsBlank hc' rfl]
        rfl
      | cons d cs =>
        rw [spaced] at h
        split at h
        · rename_i hd
          split at h
          · rename_i hspace
            have hd' : d = ' ' := by simpa using hspace
            obtain ⟨hne, heq⟩ := ih cs.length (by simp at hn; omega) h rfl
            rw [collapse_cons_of_blank hc' hd hne, heq, hd']
          · cases h
        · rename_i hd
          have hd' : isBlank d = false := by simpa using hd
          have hrest : spaced true (d :: cs) = some false := by rw [spaced, if_neg hd, h]
          obtain ⟨-, heq⟩ := ih (d :: cs).length (by simp at hn ⊢; omega) hrest rfl
          rw [collapse_cons_of_not_blank hc' hd', heq]

theorem words_append_blank (xs : List Char) {d : Char} (hd : isBlank d = true) (ys : List Char) :
    words (xs ++ d :: ys) = words xs ++ words ys := by
  induction xs with
  | nil => rw [List.nil_append, words_of_isBlank hd]; rfl
  | cons c xs ih =>
    by_cases hc : isBlank c = true
    · rw [List.cons_append, words_of_isBlank hc, words_of_isBlank hc, ih]
    · have hc' : isBlank c = false := by simpa using hc
      rw [List.cons_append, words_of_not_isBlank hc', words_of_not_isBlank hc', ih]
      cases xs with
      | nil => simp [startsBlank, hd, words, consFirst]
      | cons e xs =>
        rw [List.cons_append, startsBlank, startsBlank]
        by_cases he : isBlank e = true
        · simp [he]
        · have he' : isBlank e = false := by simpa using he
          obtain ⟨w, ws, hwords⟩ := List.exists_cons_of_ne_nil (words_ne_nil he' xs)
          simp [he, hwords, consFirst]

theorem intercalate_append {xs ys : List (List Char)} (hxs : xs ≠ []) (hys : ys ≠ []) :
    List.intercalate [' '] (xs ++ ys) =
      List.intercalate [' '] xs ++ ' ' :: List.intercalate [' '] ys := by
  induction xs with
  | nil => exact absurd rfl hxs
  | cons x xs ih =>
    cases xs with
    | nil =>
      rw [List.singleton_append, List.intercalate_cons_of_ne_nil hys, List.intercalate_singleton]
      simp
    | cons x' xs =>
      have hrest := ih (by simp)
      rw [List.cons_append, List.intercalate_cons_of_ne_nil (by simp),
        List.intercalate_cons_of_ne_nil (by simp), hrest]
      simp

/-- What is left of the text after a collapsed one. -/
def collapseTail (cs : List Char) : List Char :=
  if words cs = [] then [] else ' ' :: collapse cs

theorem collapse_append_tail {xs tail : List Char} (h : spaced true xs = some false)
    (htail : tail = [] ∨ startsBlank tail = true) :
    collapse (xs ++ tail) = xs ++ collapseTail tail := by
  obtain ⟨hne, heq⟩ := collapse_of_spaced h
  rcases htail with rfl | htail
  · simp [collapseTail, words, heq]
  · cases tail with
    | nil => simp [startsBlank] at htail
    | cons d tail =>
      rw [collapse_eq_joinedWords, joinedWords] at heq
      rw [collapse_eq_joinedWords, joinedWords, words_append_blank xs htail, collapseTail,
        collapse_eq_joinedWords, words_of_isBlank htail]
      by_cases hwords : words tail = []
      · rw [hwords, List.append_nil, if_pos rfl, List.append_nil]
        exact heq
      · rw [if_neg hwords, intercalate_append hne hwords]
        rw [heq, joinedWords, words_of_isBlank htail]

end AdSearch.Proofs.Text.Spacing
