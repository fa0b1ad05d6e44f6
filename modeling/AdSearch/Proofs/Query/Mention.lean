import AdSearch.Proofs.Query.Opening

/-!
# Texts that mention a date directive

A search for a directive succeeds exactly when the text of a directive stands somewhere, from the
last segment of its path on.  A text without such a place has no date range and is left as it is.
-/

namespace AdSearch.Proofs.Query.Mention

open AdSearch.Text AdSearch.Query AdSearch.Proofs.Text.Blank AdSearch.Proofs.Text.Case
  AdSearch.Proofs.Text.Scan AdSearch.Proofs.Query.Predicate AdSearch.Proofs.Query.Lexing
  AdSearch.Proofs.Query.Layout AdSearch.Proofs.Query.Following AdSearch.Proofs.Query.Opening

/-! ## The texts of directives -/

/-- The word `date`, blanks and a keyword. -/
def OpeningText (keyword text : List Char) : Prop :=
  ∃ date gap spelled, text = date ++ (gap ++ spelled) ∧
    sameLetters date Keyword.dateWord = true ∧ Blanks gap ∧ sameLetters keyword spelled = true

/-- Blanks and a date in single quotes. -/
def DateText (inner text : List Char) : Prop :=
  ∃ gap, text = gap ++ '\'' :: (inner ++ ['\'']) ∧ Blanks gap ∧ '\'' ∉ inner

/-- A directive with a keyword, as far as the first letter of the keyword. -/
def DuringText (text : List Char) : Prop :=
  ∃ opening gap c, text = opening ++ (gap ++ [c]) ∧ OpeningText Keyword.duringWord opening ∧
    Blanks gap ∧ isWord c = true

/-- A directive with two dates. -/
def BetweenText (text : List Char) : Prop :=
  ∃ opening start gap conjunction stop,
    text = opening ++ (start ++ (gap ++ (conjunction ++ stop))) ∧
    OpeningText Keyword.betweenWord opening ∧ (∃ inner, DateText inner start) ∧ Blanks gap ∧
    sameLetters Keyword.andWord conjunction = true ∧ ∃ inner, DateText inner stop

/-- A text of some form stands in a text, and not behind a part of a word. -/
def Mentions (Form : List Char → Prop) (cs : List Char) : Prop :=
  ∃ before text after, cs = before ++ (text ++ after) ∧ endsWord false before = false ∧ Form text

variable {Form : List Char → Prop}

theorem Mentions.append_right {xs : List Char} (h : Mentions Form xs) (ys : List Char) :
    Mentions Form (xs ++ ys) := by
  obtain ⟨before, text, after, rfl, hends, hform⟩ := h
  exact ⟨before, text, after ++ ys, by simp only [List.append_assoc], hends, hform⟩

theorem Mentions.append_left {xs ys : List Char} (hxs : endsWord false xs = false)
    (h : Mentions Form ys) : Mentions Form (xs ++ ys) := by
  obtain ⟨before, text, after, rfl, hends, hform⟩ := h
  refine ⟨xs ++ before, text, after, by rw [List.append_assoc], ?_, hform⟩
  rw [endsWord_append, hxs, hends]

/-! ## Reading what is mentioned -/

theorem afterDatePath?_words {w : List Char} (hw : ∀ c ∈ w, isWord c = true)
    (seen next : List Char) :
    afterDatePath? seen (w ++ next) = afterDatePath? (w.reverse ++ seen) next := by
  induction w generalizing seen with
  | nil => rfl
  | cons c w ih =>
    rw [List.forall_mem_cons] at hw
    rw [List.cons_append, afterDatePath?, if_pos hw.1, ih hw.2]
    simp

theorem startsBlank_of_isKeyword {keyword spelled : List Char} (hkeyword : isKeyword keyword = true)
    (h : sameLetters keyword spelled = true) (cs : List Char) :
    startsBlank (spelled ++ cs) = false := by
  have hwords := isWord_of_sameLetters (mem_capitals_of_isKeyword hkeyword) h
  cases spelled with
  | nil =>
    cases keyword with
    | nil => cases hkeyword
    | cons k keyword => simp [sameLetters] at h
  | cons c spelled => exact isBlank_of_isWord (hwords c List.mem_cons_self)

theorem opens?_opening {keyword opening : List Char} (hkeyword : isKeyword keyword = true)
    (h : OpeningText keyword opening) (cs : List Char) :
    ∃ spelled, opens? keyword (opening ++ cs) = some (spelled, cs) := by
  obtain ⟨date, gap, spelled, rfl, hdate, hgap, hspelled⟩ := h
  obtain ⟨c, rest, hchars⟩ := List.exists_cons_of_ne_nil hgap.1
  have hblank := hgap.2 c (by rw [hchars]; exact List.mem_cons_self)
  have hpath : afterDatePath? [] (date ++ (gap ++ (spelled ++ cs))) =
      some (gap ++ (spelled ++ cs)) := by
    rw [afterDatePath?_words (date_word_spec (List.Subset.refl _) hdate).1, List.append_nil,
      hchars, List.cons_append, afterDatePath?_symbol (by simp [isSymbol, hblank]),
      List.reverse_reverse, if_pos hdate]
  have hstarts := startsBlank_of_isKeyword hkeyword hspelled cs
  refine ⟨spelled, ?_⟩
  rw [List.append_assoc, List.append_assoc, opens?, hpath, Option.bind_some, blanks?_append hgap,
    trimLeft_eq_self hstarts, Option.bind_some, letters?_append hspelled]

theorem exists_of_afterDatePath? {seen cs rest : List Char}
    (h : afterDatePath? seen cs = some rest) :
    ∃ before date, seen.reverse ++ cs = before ++ (date ++ rest) ∧
      endsWord false before = false ∧ sameLetters date Keyword.dateWord = true := by
  induction cs generalizing seen with
  | nil => cases h
  | cons c cs ih =>
    rw [afterDatePath?] at h
    split at h
    · obtain ⟨before, date, heq, hends, hdate⟩ := ih h
      exact ⟨before, date, by simpa using heq, hends, hdate⟩
    · split at h
      · rename_i hpoint
        have hc : c = '.' := by simp at hpoint; exact hpoint.1
        obtain ⟨before, date, heq, hends, hdate⟩ := ih h
        refine ⟨seen.reverse ++ '.' :: before, date, ?_, ?_, hdate⟩
        · rw [List.reverse_nil, List.nil_append] at heq
          rw [hc, heq, List.append_assoc, List.cons_append]
        · rw [endsWord_append]
          exact hends
      · split at h
        · rename_i hdate
          exact ⟨[], seen.reverse, by rw [Option.some.inj h, List.nil_append], rfl, hdate⟩
        · cases h

theorem exists_of_opens? {keyword cs spelled rest : List Char}
    (h : opens? keyword cs = some (spelled, rest)) :
    ∃ before opening, cs = before ++ (opening ++ rest) ∧ endsWord false before = false ∧
      OpeningText keyword opening := by
  rw [opens?, Option.bind_eq_some_iff] at h
  obtain ⟨cs', hblanks, hletters⟩ := h
  obtain ⟨path, hpath, hblanks⟩ := Option.bind_eq_some_iff.mp hblanks
  obtain ⟨before, date, heq, hends, hdate⟩ := exists_of_afterDatePath? hpath
  obtain ⟨gap, hgap, rfl, -⟩ := exists_of_blanks? hblanks
  obtain ⟨rfl, hspelled⟩ := exists_of_letters? hletters
  refine ⟨before, date ++ (gap ++ spelled), ?_, hends, date, gap, spelled, rfl, hdate, hgap,
    hspelled⟩
  simpa using heq

theorem quotedDate?_dateText {inner text : List Char} (h : DateText inner text) (cs : List Char) :
    quotedDate? (text ++ cs) = some (inner, cs) := by
  obtain ⟨gap, rfl, hgap, hinner⟩ := h
  have hstarts : startsBlank ('\'' :: (inner ++ '\'' :: cs)) = false := by
    rw [startsBlank]
    decide
  have htext : gap ++ '\'' :: (inner ++ ['\'']) ++ cs = gap ++ '\'' :: (inner ++ '\'' :: cs) := by
    simp
  simp only [htext, quotedDate?, blanks?_append hgap, trimLeft_eq_self hstarts,
    Option.bind_eq_bind, Option.bind_some, char?]
  rw [if_pos (by decide), Option.bind_some, upTo?_append hinner]

theorem exists_of_quotedDate? {cs inner rest : List Char}
    (h : quotedDate? cs = some (inner, rest)) :
    ∃ text, cs = text ++ rest ∧ DateText inner text := by
  simp only [quotedDate?, Option.bind_eq_bind, Option.bind_eq_some_iff] at h
  obtain ⟨cs', hblanks, cs'', hchar, hupTo⟩ := h
  obtain ⟨gap, hgap, rfl, -⟩ := exists_of_blanks? hblanks
  obtain rfl := eq_cons_of_char? hchar
  obtain ⟨hinner, rfl⟩ := exists_of_upTo? hupTo
  exact ⟨gap ++ '\'' :: (inner ++ ['\'']), by simp, gap, rfl, hgap, hinner⟩

theorem isSome_during?_text {text : List Char} (h : DuringText text) (cs : List Char) :
    (during? false (text ++ cs)).isSome = true := by
  obtain ⟨opening, gap, c, rfl, hopening, hgap, hc⟩ := h
  obtain ⟨spelled, hopens⟩ := opens?_opening (by decide) hopening (gap ++ ([c] ++ cs))
  have hstarts : startsBlank (c :: cs) = false := isBlank_of_isWord hc
  have hword : word? (c :: cs) = some (c :: cs.takeWhile isWord, cs.dropWhile isWord) := by
    rw [word?, List.takeWhile_cons_of_pos hc, List.dropWhile_cons_of_pos hc]
  rw [List.append_assoc, List.append_assoc, during?_false, hopens, Option.bind_some]
  dsimp only
  rw [blanks?_append hgap, List.singleton_append, trimLeft_eq_self hstarts, Option.bind_some,
    hword]
  rfl

theorem isSome_between?_text {text : List Char} (h : BetweenText text) (cs : List Char) :
    (between? false (text ++ cs)).isSome = true := by
  obtain ⟨opening, start, gap, conjunction, stop, rfl, hopening, ⟨first, hstart⟩, hgap, hand,
    last, hstop⟩ := h
  obtain ⟨spelled, hopens⟩ := opens?_opening (by decide) hopening
    (start ++ (gap ++ (conjunction ++ (stop ++ cs))))
  have hstarts := startsBlank_of_isKeyword (by decide) hand (stop ++ cs)
  simp only [List.append_assoc]
  rw [between?_false, hopens, Option.bind_some, quotedDate?_dateText hstart, Option.bind_some]
  dsimp only
  rw [blanks?_append hgap, trimLeft_eq_self hstarts, Option.bind_some, letters?_append hand,
    Option.bind_some, quotedDate?_dateText hstop]
  rfl

theorem exists_of_during? {afterWord : Bool} {cs rest : List Char} {range : DateRange}
    (h : during? afterWord cs = some (range, rest)) :
    ∃ before opening gap keyword, cs = before ++ (opening ++ (gap ++ (keyword ++ rest))) ∧
      endsWord false before = false ∧ OpeningText Keyword.duringWord opening ∧ Blanks gap ∧
      keyword ≠ [] ∧ (∀ c ∈ keyword, isWord c = true) ∧
      range = .during (some (String.ofList keyword)) := by
  cases afterWord with
  | true => cases h
  | false =>
    rw [during?_false] at h
    obtain ⟨⟨spelled, tail⟩, hopens, h⟩ := Option.bind_eq_some_iff.mp h
    obtain ⟨here, hblanks, h⟩ := Option.bind_eq_some_iff.mp h
    obtain ⟨⟨keyword, rest'⟩, hword, h⟩ := Option.bind_eq_some_iff.mp h
    obtain ⟨rfl, rfl⟩ := Prod.mk.inj (Option.some.inj h)
    obtain ⟨before, opening, rfl, hends, hopening⟩ := exists_of_opens? hopens
    obtain ⟨gap, hgap, htail, -⟩ := exists_of_blanks? hblanks
    obtain ⟨hne, hwords, rfl⟩ := exists_of_word? hword
    dsimp only at htail
    exact ⟨before, opening, gap, keyword, by rw [htail], hends, hopening, hgap, hne, hwords, rfl⟩

theorem exists_of_between? {afterWord : Bool} {cs rest : List Char} {range : DateRange}
    (h : between? afterWord cs = some (range, rest)) :
    ∃ before text first last, cs = before ++ (text ++ rest) ∧ endsWord false before = false ∧
      BetweenText text ∧ '\'' ∉ first ∧ '\'' ∉ last ∧
      range = .between (some (String.ofList (trim first))) (some (String.ofList (trim last))) := by
  cases afterWord with
  | true => cases h
  | false =>
    rw [between?_false] at h
    obtain ⟨⟨spelled, afterOpening⟩, hopens, h⟩ := Option.bind_eq_some_iff.mp h
    obtain ⟨⟨first, afterStart⟩, hfirst, h⟩ := Option.bind_eq_some_iff.mp h
    obtain ⟨here, hblanks, h⟩ := Option.bind_eq_some_iff.mp h
    obtain ⟨⟨conjunction, afterAnd⟩, hletters, h⟩ := Option.bind_eq_some_iff.mp h
    obtain ⟨⟨last, rest'⟩, hlast, h⟩ := Option.bind_eq_some_iff.mp h
    obtain ⟨rfl, rfl⟩ := Prod.mk.inj (Option.some.inj h)
    obtain ⟨before, opening, rfl, hends, hopening⟩ := exists_of_opens? hopens
    obtain ⟨start, hstartText, hstart⟩ := exists_of_quotedDate? hfirst
    obtain ⟨gap, hgap, hgapText, -⟩ := exists_of_blanks? hblanks
    obtain ⟨rfl, hand⟩ := exists_of_letters? hletters
    obtain ⟨stop, hstopText, hstop⟩ := exists_of_quotedDate? hlast
    dsimp only at hstartText hgapText hstopText
    refine ⟨before, opening ++ (start ++ (gap ++ (conjunction ++ stop))), first, last, ?_, hends,
      ⟨opening, start, gap, conjunction, stop, rfl, hopening, ⟨first, hstart⟩, hgap, hand, last,
        hstop⟩, ?_, ?_, rfl⟩
    · simp only [hstartText, hgapText, hstopText, List.append_assoc]
    · obtain ⟨-, -, -, hfree⟩ := hstart
      exact hfree
    · obtain ⟨-, -, -, hfree⟩ := hstop
      exact hfree

/-! ## Searching for what is mentioned -/

/-- A search for a form of text succeeds in the texts that mention one. -/
theorem isSome_find?_iff {here? : Bool → List Char → Option (DateRange × List Char)}
    (hread : ∀ {text}, Form text → ∀ cs, (here? false (text ++ cs)).isSome = true)
    (hform : ∀ {afterWord cs range rest}, here? afterWord cs = some (range, rest) →
      afterWord = false ∧ Mentions Form cs) (cs : List Char) :
    (find? here? false cs).isSome = true ↔ Mentions Form cs := by
  constructor
  · intro h
    obtain ⟨⟨before, range, rest⟩, hfind⟩ := Option.isSome_iff_exists.mp h
    obtain ⟨here, rfl, hhere⟩ := exists_of_find? hfind
    obtain ⟨hends, hmention⟩ := hform hhere
    exact hmention.append_left hends
  · rintro ⟨before, text, after, rfl, hends, htext⟩
    apply isSome_find?_append
    rw [hends]
    exact hread htext after

theorem isSome_find?_during_iff (cs : List Char) :
    (find? during? false cs).isSome = true ↔ Mentions DuringText cs := by
  refine isSome_find?_iff isSome_during?_text ?_ cs
  intro afterWord cs range rest h
  obtain ⟨before, opening, gap, keyword, rfl, hends, hopening, hgap, hne, hwords, -⟩ :=
    exists_of_during? h
  obtain ⟨c, keyword, rfl⟩ := List.exists_cons_of_ne_nil hne
  refine ⟨?_, before, opening ++ (gap ++ [c]), keyword ++ rest, by simp, hends, opening, gap, c,
    rfl, hopening, hgap, hwords c List.mem_cons_self⟩
  cases afterWord with
  | true => cases h
  | false => rfl

theorem isSome_find?_between_iff (cs : List Char) :
    (find? between? false cs).isSome = true ↔ Mentions BetweenText cs := by
  refine isSome_find?_iff isSome_between?_text ?_ cs
  intro afterWord cs range rest h
  obtain ⟨before, text, first, last, hcs, hends, htext, -⟩ := exists_of_between? h
  refine ⟨?_, before, text, rest, hcs, hends, htext⟩
  cases afterWord with
  | true => cases h
  | false => rfl

theorem takeDirective_of_none {directive? : Bool → List Char → Option (DateRange × List Char)}
    {cs : List Char} (h : find? directive? false cs = none) (range : Option DateRange) :
    takeDirective directive? range cs = (range, cs) := by
  rw [takeDirective, h]

theorem takeDirective_fst_ne_none {directive? : Bool → List Char → Option (DateRange × List Char)}
    {cs : List Char} {range : Option DateRange}
    (h : (find? directive? false cs).isSome = true ∨ range ≠ none) :
    (takeDirective directive? range cs).1 ≠ none := by
  cases hfind : find? directive? false cs with
  | some found =>
    rw [takeDirective, hfind]
    simp
  | none =>
    rw [takeDirective_of_none hfind]
    simpa [hfind] using h

/-- A text that mentions no directive is left as it is. -/
theorem takeDateRange_eq_self {cs : List Char} (hduring : ¬Mentions DuringText cs)
    (hbetween : ¬Mentions BetweenText cs) : takeDateRange cs = (none, cs) := by
  have hfirst : find? during? false cs = none := by
    rwa [← isSome_find?_during_iff, Option.not_isSome_iff_eq_none] at hduring
  have hsecond : find? between? false cs = none := by
    rwa [← isSome_find?_between_iff, Option.not_isSome_iff_eq_none] at hbetween
  rw [takeDateRange, takeDirective_of_none hfirst]
  exact takeDirective_of_none hsecond none

/-- A text has a date range exactly if it mentions a directive. -/
theorem takeDateRange_fst_eq_none_iff (cs : List Char) :
    (takeDateRange cs).1 = none ↔ ¬Mentions DuringText cs ∧ ¬Mentions BetweenText cs := by
  constructor
  · intro hnone
    rw [takeDateRange] at hnone
    have hduring : ¬Mentions DuringText cs := by
      intro h
      have hfind := (isSome_find?_during_iff cs).mpr h
      exact takeDirective_fst_ne_none (Or.inr (takeDirective_fst_ne_none (Or.inl hfind))) hnone
    have hfirst : find? during? false cs = none := by
      rwa [← isSome_find?_during_iff, Option.not_isSome_iff_eq_none] at hduring
    refine ⟨hduring, fun h => ?_⟩
    rw [takeDirective_of_none hfirst] at hnone
    exact takeDirective_fst_ne_none (Or.inl ((isSome_find?_between_iff cs).mpr h)) hnone
  · rintro ⟨hduring, hbetween⟩
    rw [takeDateRange_eq_self hduring hbetween]

instance (cs : List Char) : Decidable (Mentions DuringText cs) :=
  decidable_of_iff _ (isSome_find?_during_iff cs)

instance (cs : List Char) : Decidable (Mentions BetweenText cs) :=
  decidable_of_iff _ (isSome_find?_between_iff cs)

/-! ## Texts in parts -/

/-- A character that no text of the form holds cuts a text in two. -/
theorem mentions_append_cons {d : Char} (hd : isWord d = false)
    (hform : ∀ text, Form text → text ≠ [] ∧ d ∉ text) (xs ys : List Char) :
    Mentions Form (xs ++ d :: ys) ↔ Mentions Form xs ∨ Mentions Form ys := by
  constructor
  · rintro ⟨before, text, after, heq, hends, htext⟩
    obtain ⟨hne, hfree⟩ := hform text htext
    rcases List.append_eq_append_iff.mp heq.symm with ⟨us, rfl, hus⟩ | ⟨us, rfl, hus⟩
    · -- the text starts before the cut, so it ends there too
      rcases List.append_eq_append_iff.mp hus with ⟨vs, rfl, -⟩ | ⟨vs, rfl, hvs⟩
      · exact Or.inl ⟨before, text, vs, rfl, hends, htext⟩
      · cases vs with
        | nil => exact Or.inl ⟨before, us, [], by simp, hends, by rwa [List.append_nil] at htext⟩
        | cons e vs =>
          obtain ⟨rfl, -⟩ := List.cons.inj hvs
          simp at hfree
    · cases us with
      | nil =>
        cases text with
        | nil => exact absurd rfl hne
        | cons e text =>
          obtain ⟨rfl, -⟩ := List.cons.inj hus
          simp at hfree
      | cons e us =>
        obtain ⟨rfl, rfl⟩ := List.cons.inj hus
        rw [endsWord_append, endsWord, hd] at hends
        exact Or.inr ⟨us, text, after, rfl, hends, htext⟩
  · rintro (h | h)
    · exact h.append_right (d :: ys)
    · have hcut : endsWord false (xs ++ [d]) = false := by
        rw [endsWord_append]
        exact hd
      have hright := h.append_left hcut
      rwa [List.append_assoc, List.singleton_append] at hright

theorem OpeningText.chars {keyword text : List Char} (hkeyword : isKeyword keyword = true)
    (h : OpeningText keyword text) : ∀ c ∈ text, isWord c = true ∨ isBlank c = true := by
  obtain ⟨date, gap, spelled, rfl, hdate, hgap, hspelled⟩ := h
  have hwords := isWord_of_sameLetters (mem_capitals_of_isKeyword hkeyword) hspelled
  intro c hc
  rw [List.mem_append, List.mem_append] at hc
  rcases hc with hc | hc | hc
  · exact Or.inl ((date_word_spec (List.Subset.refl _) hdate).1 c hc)
  · exact Or.inr (hgap.2 c hc)
  · exact Or.inl (hwords c hc)

/-- The text of a directive starts with a word. -/
theorem OpeningText.exists_cons {keyword text : List Char} (h : OpeningText keyword text) :
    ∃ c rest, text = c :: rest ∧ isWord c = true := by
  obtain ⟨date, gap, spelled, rfl, hdate, -⟩ := h
  have hwords := (date_word_spec (List.Subset.refl _) hdate).1
  cases date with
  | nil => cases hdate
  | cons c date => exact ⟨c, _, rfl, hwords c List.mem_cons_self⟩

theorem DuringText.chars {text : List Char} (h : DuringText text) :
    ∀ c ∈ text, isWord c = true ∨ isBlank c = true := by
  obtain ⟨opening, gap, d, rfl, hopening, hgap, hd⟩ := h
  intro c hc
  rw [List.mem_append, List.mem_append, List.mem_singleton] at hc
  rcases hc with hc | hc | rfl
  · exact hopening.chars (by decide) c hc
  · exact Or.inr (hgap.2 c hc)
  · exact Or.inl hd

/-- No directive with a keyword goes on beyond a character that is neither a word character nor a
blank. -/
theorem mentions_during_append_cons {d : Char} (hd : isWord d = false) (hblank : isBlank d = false)
    (xs ys : List Char) :
    Mentions DuringText (xs ++ d :: ys) ↔ Mentions DuringText xs ∨ Mentions DuringText ys := by
  refine mentions_append_cons hd (fun text htext => ⟨?_, fun hmem => ?_⟩) xs ys
  · obtain ⟨opening, gap, c, rfl, -⟩ := htext
    simp
  · have hchar := htext.chars d hmem
    simp [hd, hblank] at hchar

theorem not_mentions_during_nil : ¬Mentions DuringText [] := by decide

theorem mentions_during_quoted {mark : Char} (hmark : isMark mark = true) (inner : List Char) :
    Mentions DuringText (mark :: (inner ++ [mark])) ↔ Mentions DuringText inner := by
  have hword := isWord_of_isMark hmark
  have hblank := isBlank_of_isMark hmark
  rw [← List.nil_append (mark :: (inner ++ [mark])), mentions_during_append_cons hword hblank,
    mentions_during_append_cons hword hblank]
  simp [not_mentions_during_nil]

theorem BetweenText.exists_concat {text : List Char} (h : BetweenText text) :
    ∃ init, text = init ++ ['\''] ∧ '\'' ∈ init := by
  obtain ⟨opening, start, gap, conjunction, stop, rfl, -, -, -, -, last, gap', rfl, -, -⟩ := h
  exact ⟨opening ++ (start ++ (gap ++ (conjunction ++ (gap' ++ '\'' :: last)))), by simp, by simp⟩

/-- A literal mentions a directive with two dates only inside its marks. -/
theorem mentions_between_quoted {mark : Char} (hmark : isMark mark = true) {inner : List Char}
    (hinner : mark ∉ inner) :
    Mentions BetweenText (mark :: (inner ++ [mark])) ↔ Mentions BetweenText inner := by
  have hword := isWord_of_isMark hmark
  constructor
  · rintro ⟨before, text, after, heq, hends, htext⟩
    obtain ⟨init, rfl, hquote⟩ := htext.exists_concat
    cases before with
    | nil =>
      -- a directive starts with a word
      obtain ⟨opening, start, gap, conjunction, stop, hopen, hopening, -⟩ := htext
      obtain ⟨c, rest, rfl, hc⟩ := hopening.exists_cons
      rw [hopen] at heq
      obtain ⟨rfl, -⟩ := List.cons.inj heq
      rw [hword] at hc
      cases hc
    | cons e before =>
      obtain ⟨rfl, heq⟩ := List.cons.inj heq
      rw [endsWord, hword] at hends
      rcases List.eq_nil_or_concat after with rfl | ⟨after', e, rfl⟩
      · -- the last quotation mark would have another one before it in the literal
        have hlast : inner ++ [mark] = (before ++ init) ++ ['\''] := by simpa using heq
        obtain ⟨rfl, hmark'⟩ := List.append_inj' hlast rfl
        obtain rfl : mark = '\'' := by simpa using hmark'
        exact absurd (List.mem_append_right before hquote) hinner
      · have hlast : inner ++ [mark] = (before ++ (init ++ ['\''] ++ after')) ++ [e] := by
          simpa using heq
        obtain ⟨rfl, -⟩ := List.append_inj' hlast rfl
        exact ⟨before, init ++ ['\''], after', rfl, hends, htext⟩
  · intro h
    have hfirst : endsWord false [mark] = false := hword
    exact (h.append_right [mark]).append_left hfirst

end AdSearch.Proofs.Query.Mention
