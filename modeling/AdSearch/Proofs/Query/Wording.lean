import AdSearch.Proofs.Text.Spacing
import AdSearch.Query.Parser

/-!
# A query is its words

The words of a text are determined by it, whatever blanks stand before, between and after them.
Texts with the same words are read alike: as the same query with the same warnings, or with the same
error.
-/

namespace AdSearch.Proofs.Query.Wording

open AdSearch.Text AdSearch.Query AdSearch.Log AdSearch.Proofs.Text.Scan
  AdSearch.Proofs.Text.Spacing

/-- A text of words, with blanks between any two of them and perhaps at the ends. -/
inductive WordsIn : List (List Char) → List Char → Prop
  | blanks {gap : List Char} (hgap : ∀ c ∈ gap, isBlank c = true) : WordsIn [] gap
  | word {gap w cs : List Char} {ws : List (List Char)} (hgap : ∀ c ∈ gap, isBlank c = true)
      (hne : w ≠ []) (hw : ∀ c ∈ w, isBlank c = false)
      (hends : cs = [] ∨ startsBlank cs = true) (hrest : WordsIn ws cs) :
      WordsIn (w :: ws) (gap ++ (w ++ cs))

/-! ## The words of a text -/

theorem words_append_of_word {w cs : List Char} (hne : w ≠ []) (hw : ∀ c ∈ w, isBlank c = false)
    (hends : cs = [] ∨ startsBlank cs = true) : words (w ++ cs) = w :: words cs := by
  induction w with
  | nil => exact absurd rfl hne
  | cons c w ih =>
    have hc := hw c List.mem_cons_self
    rw [List.cons_append, words_of_not_isBlank hc]
    cases w with
    | nil =>
      rw [List.nil_append]
      rcases hends with rfl | hstarts
      · rfl
      · rw [if_pos hstarts]
    | cons d w =>
      have hstarts : ¬startsBlank (d :: w ++ cs) = true := by
        simp [startsBlank, hw d (by simp)]
      rw [if_neg hstarts, ih (by simp) fun e he => hw e (List.mem_cons_of_mem c he), consFirst]

theorem WordsIn.words_eq {ws : List (List Char)} {cs : List Char} (h : WordsIn ws cs) :
    words cs = ws := by
  induction h with
  | blanks hgap =>
    have hblanks := words_append_of_blanks hgap []
    rwa [List.append_nil] at hblanks
  | word hgap hne hw hends _ ih =>
    rw [words_append_of_blanks hgap, words_append_of_word hne hw hends, ih]

theorem WordsIn.cons_blank {ws : List (List Char)} {cs : List Char} (h : WordsIn ws cs) {c : Char}
    (hc : isBlank c = true) : WordsIn ws (c :: cs) := by
  cases h with
  | blanks hgap => exact .blanks (List.forall_mem_cons.mpr ⟨hc, hgap⟩)
  | word hgap hne hw hends hrest =>
    exact .word (List.forall_mem_cons.mpr ⟨hc, hgap⟩) hne hw hends hrest

/-- A character in front of a word belongs to it. -/
theorem WordsIn.cons_of_not_startsBlank {w : List Char} {ws : List (List Char)} {cs : List Char}
    (h : WordsIn (w :: ws) cs) (hstarts : startsBlank cs = false) {c : Char}
    (hc : isBlank c = false) : WordsIn ((c :: w) :: ws) (c :: cs) := by
  cases h with
  | @word gap _ rest _ hgap hne hw hends hrest =>
    cases gap with
    | nil =>
      exact .word (List.forall_mem_nil _) (by simp) (List.forall_mem_cons.mpr ⟨hc, hw⟩) hends hrest
    | cons d gap =>
      have hd : isBlank d = false := hstarts
      rw [hgap d List.mem_cons_self] at hd
      cases hd

theorem wordsIn_words (cs : List Char) : WordsIn (words cs) cs := by
  induction cs with
  | nil => exact .blanks (List.forall_mem_nil _)
  | cons c cs ih =>
    by_cases hc : isBlank c = true
    · rw [words_of_isBlank hc]
      exact ih.cons_blank hc
    have hc' : isBlank c = false := by simpa using hc
    by_cases hends : cs = [] ∨ startsBlank cs = true
    · have hsingle : ∀ d ∈ [c], isBlank d = false := by simpa using hc'
      have hwords := words_append_of_word (by simp) hsingle hends
      rw [List.singleton_append] at hwords
      rw [hwords]
      exact .word (List.forall_mem_nil _) (by simp) hsingle hends ih
    · rw [not_or, Bool.not_eq_true] at hends
      obtain ⟨d, cs, rfl⟩ := List.exists_cons_of_ne_nil hends.1
      obtain ⟨w, ws, hwords⟩ := List.exists_cons_of_ne_nil (words_ne_nil hends.2 cs)
      rw [hwords] at ih
      rw [words_of_not_isBlank hc', if_neg (by simp [hends.2]), hwords, consFirst]
      exact ih.cons_of_not_startsBlank hends.2 hc'

/-! ## Reading -/

/-- Every text has its words, and texts with the same words are read alike. -/
theorem parse_eq_of_same_words :
    (∀ s : String, ∃! ws, WordsIn ws s.toList) ∧
      ∀ (ws : List (List Char)) (s t : String), WordsIn ws s.toList → WordsIn ws t.toList →
        parse s = parse t := by
  refine ⟨fun s => ⟨words s.toList, wordsIn_words s.toList, fun ws h => h.words_eq.symm⟩, ?_⟩
  intro ws s t hs ht
  have hwords : words s.toList = words t.toList := hs.words_eq.trans ht.words_eq.symm
  rw [parse, collapse_congr hwords, parse]

/-- A query with single spaces, and the same words with other blanks between and around them; the
literal goes over two lines. -/
def plainText : String := "SELECT a FROM b WHERE c = 'x y' AND d"

def spreadText : String := "\u3000SELECT\ta  FROM\n\nb WHERE c\u00a0= 'x\n y'\u2028AND d \x1f"

theorem parse_plainText_eq_spreadText :
    (∃ ws, WordsIn ws plainText.toList ∧ WordsIn ws spreadText.toList) ∧
      parse plainText = parse spreadText := by
  have hsame : words spreadText.toList = words plainText.toList := by decide +kernel
  have hplain := wordsIn_words plainText.toList
  have hspread : WordsIn (words plainText.toList) spreadText.toList :=
    hsame ▸ wordsIn_words spreadText.toList
  exact ⟨⟨_, hplain, hspread⟩, parse_eq_of_same_words.2 _ _ _ hplain hspread⟩

end AdSearch.Proofs.Query.Wording
