import AdSearch.Proofs.Query.Layout

/-!
# What follows a word

A keyword is read at the start of a text or it is not, and the text after the first token does not
matter for that, as long as a token may end there.
-/

namespace AdSearch.Proofs.Query.Following

open AdSearch.Text AdSearch.Query AdSearch.Proofs.Text.Blank AdSearch.Proofs.Text.Case
  AdSearch.Proofs.Text.Scan AdSearch.Proofs.Query.Lexing AdSearch.Proofs.Query.Draft
  AdSearch.Proofs.Query.Layout

theorem sameLetter_of_isSymbol {k c : Char} (hk : k ∈ capitals) (h : isSymbol c = true) :
    sameLetter k c = false := by
  have hall : capitals.all (fun k => !isBlank (caseKey k) && !sameLetter k '(' &&
      !sameLetter k ')' && !sameLetter k ',') = true := by decide
  have hletter := List.all_eq_true.mp hall k hk
  simp only [Bool.and_eq_true, Bool.not_eq_true'] at hletter
  obtain ⟨⟨⟨hblank, hopen⟩, hclose⟩, hcomma⟩ := hletter
  simp only [isSymbol, Bool.or_eq_true, beq_iff_eq] at h
  rcases h with ((rfl | rfl) | rfl) | hc
  · exact hopen
  · exact hclose
  · exact hcomma
  · cases hsame : sameLetter k c with
    | false => rfl
    | true =>
      rw [sameLetter, beq_iff_eq, caseKey_of_isBlank hc] at hsame
      rw [hsame, hc] at hblank
      cases hblank

/-- A text whose first character is no letter does not matter for a keyword before it. -/
theorem letters?_append_of_head {keyword : List Char} (hkeyword : ∀ k ∈ keyword, k ∈ capitals)
    (w : List Char) {next : List Char}
    (hnext : ∀ c ∈ next.head?, ∀ k ∈ capitals, sameLetter k c = false) :
    letters? keyword (w ++ next) =
      (letters? keyword w).map fun (spelled, rest) => (spelled, rest ++ next) := by
  induction keyword generalizing w with
  | nil => rfl
  | cons k keyword ih =>
    cases w with
    | nil =>
      cases next with
      | nil => rfl
      | cons c next =>
        have hsame := hnext c rfl k (hkeyword k List.mem_cons_self)
        rw [List.nil_append, letters?_cons_of_ne hsame]
        rfl
    | cons c w =>
      have hrest := ih (fun k' hk' => hkeyword k' (List.mem_cons_of_mem k hk')) w
      rw [List.cons_append, letters?, letters?]
      split
      · rw [hrest]
        cases letters? keyword w <;> rfl
      · rfl

theorem letters?_append_of_endsToken {keyword : List Char}
    (hkeyword : ∀ k ∈ keyword, k ∈ capitals) (w : List Char) {next : List Char}
    (hnext : endsToken next = true) :
    letters? keyword (w ++ next) =
      (letters? keyword w).map fun (spelled, rest) => (spelled, rest ++ next) := by
  apply letters?_append_of_head hkeyword w
  intro c hc k hk
  cases next with
  | nil => cases hc
  | cons d next =>
    obtain rfl : d = c := Option.some.inj hc
    exact sameLetter_of_isSymbol hk hnext

theorem closing?_append_of_endsToken {keyword : List Char}
    (hkeyword : ∀ k ∈ keyword, k ∈ capitals) (w : List Char) {next : List Char}
    (hnext : endsToken next = true) :
    closing? keyword (w ++ next) = (closing? keyword w).map (· ++ next) := by
  rw [closing?, closing?, letters?_append_of_endsToken hkeyword w hnext]
  cases letters? keyword w with
  | none => rfl
  | some read =>
    obtain ⟨spelled, rest⟩ := read
    have hstarts : startsWord (rest ++ next) = startsWord rest := by
      cases rest with
      | nil => exact startsWord_of_endsToken hnext
      | cons c rest => rfl
    simp only [Option.map_some, Option.bind_some, hstarts]
    split <;> rfl

theorem mem_capitals_of_isKeyword {keyword : List Char} (h : isKeyword keyword = true) :
    ∀ k ∈ keyword, k ∈ capitals := by
  intro k hk
  rw [isKeyword, Bool.and_eq_true] at h
  simpa using List.all_eq_true.mp h.2 k hk

theorem closing?_spelling {keyword : List Char} (hkeyword : isKeyword keyword = true)
    (s : Spelling keyword) {next : List Char} (hnext : startsWord next = false) :
    closing? keyword (s.chars ++ next) = some next := by
  rw [closing?, letters?_append (Spelling.sameLetters_chars hkeyword s), Option.bind_some]
  exact if_neg (by simp [hnext])

/-! ## Keywords that differ -/

/-- Whether two keywords differ at a place that both have. -/
def clash : List Char → List Char → Bool
  | k :: ks, l :: ls => !sameLetter k l || clash ks ls
  | _, _ => false

theorem letters?_of_clash {keyword other spelled : List Char} (h : clash keyword other = true)
    (hspelled : sameLetters other spelled = true) (cs : List Char) :
    letters? keyword (spelled ++ cs) = none := by
  induction keyword generalizing other spelled with
  | nil => simp [clash] at h
  | cons k keyword ih =>
    cases other with
    | nil => simp [clash] at h
    | cons l other =>
      obtain ⟨c, rest, rfl, hc, hrest⟩ := sameLetters_cons.mp hspelled
      have hkey : sameLetter k l = sameLetter k c := by
        rw [sameLetter, beq_iff_eq] at hc
        rw [sameLetter, sameLetter, hc]
      rw [clash, hkey] at h
      rw [List.cons_append, letters?]
      cases hsame : sameLetter k c with
      | false => rfl
      | true =>
        rw [hsame] at h
        rw [if_pos rfl, ih h hrest]
        rfl

/-! ## The next word -/

/-- No blanks with the letters of a keyword after them come next. -/
def Avoids (keyword next : List Char) : Prop := (blanks? next).bind (letters? keyword) = none

theorem avoids_of_not_startsBlank {next : List Char} (keyword : List Char)
    (h : startsBlank next = false) : Avoids keyword next := by
  rw [Avoids, blanks?_of_not_startsBlank h]
  rfl

theorem blanks?_space (next : List Char) : blanks? (' ' :: next) = some (trimLeft next) := rfl

theorem startsBlank_spelling {keyword : List Char} (hkeyword : isKeyword keyword = true)
    (s : Spelling keyword) (next : List Char) : startsBlank (s.chars ++ next) = false := by
  obtain ⟨c, rest, hchars⟩ := List.exists_cons_of_ne_nil (Spelling.ne_nil hkeyword s)
  rw [hchars]
  exact isBlank_of_isWord (Spelling.isWord hkeyword s (by rw [hchars]; exact List.mem_cons_self))

theorem blanks?_space_spelling {keyword : List Char} (hkeyword : isKeyword keyword = true)
    (s : Spelling keyword) (next : List Char) :
    blanks? (' ' :: (s.chars ++ next)) = some (s.chars ++ next) := by
  rw [blanks?_space, trimLeft_eq_self (startsBlank_spelling hkeyword s next)]

theorem avoids_space_word {keyword other : List Char} (hother : isKeyword other = true)
    (h : clash keyword other = true) (s : Spelling other) (next : List Char) :
    Avoids keyword (' ' :: (s.chars ++ next)) := by
  rw [Avoids, blanks?_space_spelling hother]
  exact letters?_of_clash h (Spelling.sameLetters_chars hother s) next

/-- A character that is no letter starts no keyword. -/
theorem avoids_space_cons {k c : Char} {keyword : List Char} (hc : isBlank c = false)
    (h : sameLetter k c = false) (next : List Char) :
    Avoids (k :: keyword) (' ' :: c :: next) := by
  have hstarts : startsBlank (c :: next) = false := hc
  rw [Avoids, blanks?_space, trimLeft_eq_self hstarts]
  exact letters?_cons_of_ne h keyword next

end AdSearch.Proofs.Query.Following
