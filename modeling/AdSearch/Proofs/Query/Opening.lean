import AdSearch.Proofs.Query.Overlooking
import AdSearch.Query.DateDirective

/-!
# Where a date directive starts

A directive starts with a path that ends in `date` and goes on with its keyword.  Such a path is
read as it is drafted; a word starts no directive unless the keyword follows the whole of it; and a
literal starts none that reaches beyond its mark.
-/

namespace AdSearch.Proofs.Query.Opening

open AdSearch.Text AdSearch.Query AdSearch.Proofs.Text.Blank AdSearch.Proofs.Text.Case
  AdSearch.Proofs.Text.Scan AdSearch.Proofs.Query.Predicate AdSearch.Proofs.Query.Lexing
  AdSearch.Proofs.Query.Draft AdSearch.Proofs.Query.Layout AdSearch.Proofs.Query.Following
  AdSearch.Proofs.Query.Overlooking

/-! ## Paths that end in a date -/

/-- The segments of a path of which `seen` has been read, last letter first. -/
def segmentsFrom (seen path : List Char) : List (List Char) :=
  match splitOn '.' path with
  | segment :: segments => (seen.reverse ++ segment) :: segments
  | [] => []

theorem segmentsFrom_nil (path : List Char) : segmentsFrom [] path = splitOn '.' path := by
  unfold segmentsFrom
  cases splitOn '.' path <;> rfl

theorem segmentsFrom_cons {c : Char} (hc : c ≠ '.') (seen path : List Char) :
    segmentsFrom seen (c :: path) = segmentsFrom (c :: seen) path := by
  obtain ⟨segment, segments, hsplit⟩ := List.exists_cons_of_ne_nil (splitOn_ne_nil '.' path)
  have hpoint : ¬(c == '.') = true := by simpa using hc
  simp only [segmentsFrom, splitOn, if_neg hpoint, hsplit, List.reverse_cons, List.append_assoc,
    List.singleton_append]

theorem segmentsFrom_point (seen path : List Char) :
    segmentsFrom seen ('.' :: path) = seen.reverse :: segmentsFrom [] path := by
  rw [segmentsFrom_nil, segmentsFrom, splitOn, if_pos (by decide)]
  simp

theorem afterDatePath?_append {seen path : List Char}
    (hpath : ∀ c ∈ path, (isWord c || c == '.') = true)
    (hne : ∀ segment ∈ segmentsFrom seen path, segment ≠ [])
    (hlast : (segmentsFrom seen path).getLast?.any
      fun segment => sameLetters segment Keyword.dateWord) (next : List Char) :
    afterDatePath? seen (path ++ ' ' :: next) = some (' ' :: next) := by
  induction path generalizing seen with
  | nil =>
    have hdate : sameLetters seen.reverse Keyword.dateWord = true := by
      simpa [segmentsFrom, splitOn] using hlast
    rw [List.nil_append, afterDatePath?, if_neg (by decide), if_neg (by simp),
      if_pos hdate]
  | cons c path ih =>
    have hrest : ∀ d ∈ path, (isWord d || d == '.') = true := fun d hd =>
      hpath d (List.mem_cons_of_mem c hd)
    rw [List.cons_append, afterDatePath?]
    by_cases hpoint : c = '.'
    · -- a point ends a segment that is not empty, and the next one starts anew
      subst hpoint
      rw [segmentsFrom_point] at hne hlast
      have hseen : seen ≠ [] := by simpa using hne seen.reverse List.mem_cons_self
      obtain ⟨d, ds, rfl⟩ := List.exists_cons_of_ne_nil hseen
      rw [if_neg (by decide), if_pos (by simp)]
      apply ih hrest (fun segment h => hne segment (List.mem_cons_of_mem _ h))
      obtain ⟨segment, segments, hsplit⟩ := List.exists_cons_of_ne_nil (splitOn_ne_nil '.' path)
      rw [segmentsFrom_nil, hsplit, List.getLast?_cons_cons] at hlast
      rwa [segmentsFrom_nil, hsplit]
    · have hword : isWord c = true := by
        have hchar := hpath c List.mem_cons_self
        simpa [hpoint] using hchar
      rw [segmentsFrom_cons hpoint] at hne hlast
      rw [if_pos hword]
      exact ih hrest hne hlast

theorem caseKey_lowerLetter (c : Char) : caseKey (lowerLetter c) = caseKey c := by
  rw [lowerLetter]
  split
  · rename_i hkelvin
    have hc : c = '\u212A' := by
      rw [beq_iff_eq] at hkelvin
      rw [← Char.ofNat_toNat c, hkelvin]
    rw [hc]
    decide +kernel
  · simpa [sameLetter] using sameLetter_toLower c

theorem sameLetters_of_lower {segment : List Char} (h : lower segment = Keyword.dateWord) :
    sameLetters segment Keyword.dateWord = true := by
  have hkeys : (lower segment).map caseKey = segment.map caseKey := by
    rw [lower, List.map_map]
    exact List.map_congr_left fun c _ => caseKey_lowerLetter c
  rw [sameLetters, ← hkeys, h]
  exact beq_self_eq_true _

/-- The cases of the letters of `date` are word characters with an ASCII letter as lower case. -/
theorem date_letter_spec {k c : Char} (hk : k ∈ Keyword.dateWord) (h : sameLetter c k = true) :
    isWord c = true ∧ lowerLetter c = k := by
  have hall : Keyword.dateWord.all (fun k => caseKey k != Char.ofNat 0 &&
      (casesOf (caseKey k)).all fun c => isWord c && lowerLetter c == k) = true := by
    decide +kernel
  have hletter := List.all_eq_true.mp hall k hk
  rw [Bool.and_eq_true, bne_iff_ne] at hletter
  have hcase := List.all_eq_true.mp hletter.2 c (mem_casesOf hletter.1 (beq_iff_eq.mp h))
  rwa [Bool.and_eq_true, beq_iff_eq] at hcase

theorem date_word_spec {w segment : List Char} (hw : w ⊆ Keyword.dateWord)
    (h : sameLetters segment w = true) :
    (∀ c ∈ segment, isWord c = true) ∧ lower segment = w := by
  induction w generalizing segment with
  | nil =>
    have hnil : segment = [] := by simpa [sameLetters] using h
    rw [hnil]
    exact ⟨by simp, rfl⟩
  | cons k w ih =>
    rw [List.cons_subset] at hw
    cases segment with
    | nil => simp [sameLetters] at h
    | cons c segment =>
      have hboth : sameLetter c k = true ∧ sameLetters segment w = true := by
        simpa [sameLetters, sameLetter] using h
      obtain ⟨hword, hlower⟩ := date_letter_spec hw.1 hboth.1
      obtain ⟨hwords, hrest⟩ := ih hw.2 hboth.2
      rw [List.forall_mem_cons]
      exact ⟨⟨hword, hwords⟩, by rw [lower, List.map_cons, hlower, ← hrest, lower]⟩

theorem sameLetters_date_iff {segment : List Char} :
    sameLetters segment Keyword.dateWord = true ↔ lower segment = Keyword.dateWord :=
  ⟨fun h => (date_word_spec (List.Subset.refl _) h).2, sameLetters_of_lower⟩

theorem afterDatePath?_path (p : Path) (h : isDatePath p.chars = true) (next : List Char) :
    afterDatePath? [] (p.chars ++ ' ' :: next) = some (' ' :: next) := by
  refine afterDatePath?_append p.isPath.1 ?_ ?_ next
  · rw [segmentsFrom_nil]
    exact p.isPath.2
  · rw [segmentsFrom_nil]
    rw [isDatePath] at h
    cases hlast : (splitOn '.' p.chars).getLast? with
    | none => simp [hlast] at h
    | some segment =>
      have hlower : lower segment = Keyword.dateWord := by simpa [hlast] using h
      simpa using sameLetters_of_lower hlower

/-! ## Where a directive starts -/

/-- The text after a date path, blanks and a keyword. -/
def opens? (keyword cs : List Char) : Option (List Char × List Char) :=
  ((afterDatePath? [] cs).bind blanks?).bind (letters? keyword)

theorem afterDatePath?_stop {c : Char} (hc : isWord c = false) (hpoint : c ≠ '.')
    (seen cs : List Char) :
    afterDatePath? seen (c :: cs) =
      if sameLetters seen.reverse Keyword.dateWord then some (c :: cs) else none := by
  rw [afterDatePath?, if_neg (by simp [hc]), if_neg (by simp [hpoint])]

theorem afterDatePath?_symbol {c : Char} (h : isSymbol c = true) (seen cs : List Char) :
    afterDatePath? seen (c :: cs) =
      if sameLetters seen.reverse Keyword.dateWord then some (c :: cs) else none := by
  refine afterDatePath?_stop (isWord_of_isSymbol h) ?_ seen cs
  rintro rfl
  exact absurd h (by decide)

/-- A date path that starts in a word can be read no further than the word. -/
theorem afterDatePath?_bind_blanks? (seen : List Char) {w next : List Char}
    (hw : ∀ c ∈ w, isBlank c = false) (hnext : endsToken next = true) :
    (afterDatePath? seen (w ++ next)).bind blanks? = none ∨
      (afterDatePath? seen (w ++ next)).bind blanks? = blanks? next := by
  induction w generalizing seen with
  | nil =>
    cases next with
    | nil => exact Or.inl rfl
    | cons c next =>
      rw [List.nil_append, afterDatePath?_symbol hnext]
      split
      · exact Or.inr rfl
      · exact Or.inl rfl
  | cons c w ih =>
    have hrest : ∀ d ∈ w, isBlank d = false := fun d hd => hw d (List.mem_cons_of_mem c hd)
    rw [List.cons_append, afterDatePath?]
    split
    · exact ih (c :: seen) hrest
    · split
      · exact ih [] hrest
      · split
        · apply Or.inl
          have hc : startsBlank (c :: (w ++ next)) = false := hw c List.mem_cons_self
          rw [Option.bind_some, blanks?_of_not_startsBlank hc]
        · exact Or.inl rfl

theorem opens?_of_avoids {keyword w next : List Char} (hw : ∀ c ∈ w, isBlank c = false)
    (hnext : endsToken next = true) (havoids : Avoids keyword next) :
    opens? keyword (w ++ next) = none := by
  rcases afterDatePath?_bind_blanks? [] hw hnext with h | h
  · rw [opens?, h]
    rfl
  · rw [opens?, h]
    exact havoids

theorem opens?_of_not_isWord {c : Char} (h : isWord c = false) (keyword cs : List Char) :
    opens? keyword (c :: cs) = none := by
  have hword : ¬isWord c = true := by simp [h]
  rw [opens?, afterDatePath?, if_neg hword, if_neg (by simp), if_neg (by simp [sameLetters,
    Keyword.dateWord])]
  rfl

theorem afterDatePath?_of_words (seen : List Char) {w next : List Char}
    (hw : ∀ c ∈ w, isWord c = true)
    (hdate : sameLetters (seen.reverse ++ w) Keyword.dateWord = false)
    (hnext : endsToken next = true) : afterDatePath? seen (w ++ next) = none := by
  induction w generalizing seen with
  | nil =>
    cases next with
    | nil => rfl
    | cons c next =>
      rw [List.append_nil] at hdate
      rw [List.nil_append, afterDatePath?_symbol hnext, if_neg (by simp [hdate])]
  | cons c w ih =>
    have hrest : ∀ d ∈ w, isWord d = true := fun d hd => hw d (List.mem_cons_of_mem c hd)
    rw [List.cons_append, afterDatePath?, if_pos (hw c List.mem_cons_self)]
    apply ih (c :: seen) hrest
    rwa [List.reverse_cons, List.append_assoc, List.singleton_append]

/-- The two readers of directives, as far as a search is concerned. -/
structure Opener (keyword : List Char) (here? : Bool → List Char → Option (DateRange × List Char)) :
    Prop where
  after_word : ∀ cs, here? true cs = none
  of_opens? : ∀ afterWord cs, opens? keyword cs = none → here? afterWord cs = none

theorem during?_false (cs : List Char) :
    during? false cs = (opens? Keyword.duringWord cs).bind fun read =>
      (blanks? read.2).bind fun cs => (word? cs).bind fun read =>
        some (.during (some (String.ofList read.1)), read.2) := by
  simp [during?, opens?, Option.bind_assoc]

theorem between?_false (cs : List Char) :
    between? false cs = (opens? Keyword.betweenWord cs).bind fun read =>
      (quotedDate? read.2).bind fun start => (blanks? start.2).bind fun cs =>
        (letters? Keyword.andWord cs).bind fun read => (quotedDate? read.2).bind fun stop =>
          some (.between (some (String.ofList (trim start.1))) (some (String.ofList (trim stop.1))),
            stop.2) := by
  simp [between?, opens?, Option.bind_assoc]

theorem opener_during : Opener Keyword.duringWord during? := by
  refine ⟨fun cs => rfl, ?_⟩
  intro afterWord cs h
  cases afterWord with
  | true => rfl
  | false =>
    rw [during?_false, h]
    rfl

theorem opener_between : Opener Keyword.betweenWord between? := by
  refine ⟨fun cs => rfl, ?_⟩
  intro afterWord cs h
  cases afterWord with
  | true => rfl
  | false =>
    rw [between?_false, h]
    rfl

/-! ## Up to a mark -/

section Mark

variable {mark : Char} (hmark : isMark mark = true)

include hmark

theorem isBlank_of_isMark : isBlank mark = false := by
  rcases eq_of_isMark hmark with rfl | rfl <;> decide

theorem trimLeft_append_mark (xs next : List Char) :
    trimLeft (xs ++ mark :: next) = trimLeft xs ++ mark :: next := by
  induction xs with
  | nil =>
    have hblank : startsBlank (mark :: next) = false := isBlank_of_isMark hmark
    rw [List.nil_append, trimLeft_eq_self hblank]
    rfl
  | cons c xs ih =>
    by_cases hc : isBlank c = true
    · rw [List.cons_append, trimLeft, List.dropWhile_cons_of_pos hc, trimLeft,
        List.dropWhile_cons_of_pos hc]
      exact ih
    · rw [List.cons_append, trimLeft, List.dropWhile_cons_of_neg hc, trimLeft,
        List.dropWhile_cons_of_neg hc, List.cons_append]

theorem exists_of_afterDatePath?_mark {seen xs next rest : List Char}
    (h : afterDatePath? seen (xs ++ mark :: next) = some rest) :
    ∃ ys, rest = ys ++ mark :: next ∧
      afterDatePath? seen (xs ++ [mark]) = some (ys ++ [mark]) := by
  induction xs generalizing seen with
  | nil =>
    have hword := isWord_of_isMark hmark
    have hpoint : mark ≠ '.' := by
      rintro rfl
      exact absurd hmark (by decide)
    rw [List.nil_append, afterDatePath?_stop hword hpoint] at h
    rw [List.nil_append, afterDatePath?_stop hword hpoint]
    split at h
    · rename_i hdate
      exact ⟨[], (Option.some.inj h).symm, if_pos hdate⟩
    · cases h
  | cons c xs ih =>
    rw [List.cons_append, afterDatePath?] at h
    rw [List.cons_append, afterDatePath?]
    split at h
    · rename_i hword
      rw [if_pos hword]
      exact ih h
    · rename_i hword
      rw [if_neg hword]
      split at h
      · rename_i hpoint
        rw [if_pos hpoint]
        exact ih h
      · rename_i hpoint
        rw [if_neg hpoint]
        split at h
        · rename_i hdate
          exact ⟨c :: xs, (Option.some.inj h).symm, if_pos hdate⟩
        · cases h

theorem exists_of_blanks?_mark {xs next rest : List Char}
    (h : blanks? (xs ++ mark :: next) = some rest) :
    ∃ ys, rest = ys ++ mark :: next ∧ blanks? (xs ++ [mark]) = some (ys ++ [mark]) := by
  cases xs with
  | nil =>
    have hblank : startsBlank (mark :: next) = false := isBlank_of_isMark hmark
    rw [List.nil_append, blanks?_of_not_startsBlank hblank] at h
    cases h
  | cons c xs =>
    rw [List.cons_append, blanks?] at h
    split at h
    · rename_i hc
      refine ⟨trimLeft xs, ?_, ?_⟩
      · rw [← Option.some.inj h, trimLeft_append_mark hmark]
      · rw [List.cons_append, blanks?, if_pos hc, trimLeft_append_mark hmark]
    · cases h

theorem sameLetter_of_isMark {k : Char} (hk : k ∈ capitals) : sameLetter k mark = false := by
  have hall : capitals.all (fun k => !sameLetter k '\'' && !sameLetter k '"') = true := by
    decide
  have hletter := List.all_eq_true.mp hall k hk
  simp only [Bool.and_eq_true, Bool.not_eq_true'] at hletter
  rcases eq_of_isMark hmark with rfl | rfl
  · exact hletter.1
  · exact hletter.2

theorem exists_of_letters?_mark {keyword xs next spelled rest : List Char}
    (hkeyword : ∀ k ∈ keyword, k ∈ capitals)
    (h : letters? keyword (xs ++ mark :: next) = some (spelled, rest)) :
    ∃ ys, rest = ys ++ mark :: next ∧
      letters? keyword (xs ++ [mark]) = some (spelled, ys ++ [mark]) := by
  have hhead : ∀ us, ∀ c ∈ (mark :: us).head?, ∀ k ∈ capitals, sameLetter k c = false := by
    intro us c hc k hk
    obtain rfl : mark = c := Option.some.inj hc
    exact sameLetter_of_isMark hmark hk
  rw [letters?_append_of_head hkeyword xs (hhead next)] at h
  obtain ⟨⟨spelled', ys⟩, hread, hpair⟩ := Option.map_eq_some_iff.mp h
  obtain ⟨rfl, rfl⟩ := Prod.mk.inj hpair
  refine ⟨ys, rfl, ?_⟩
  rw [letters?_append_of_head hkeyword xs (hhead []), hread]
  rfl

theorem exists_of_opens?_mark {keyword xs next spelled rest : List Char}
    (hkeyword : ∀ k ∈ keyword, k ∈ capitals)
    (h : opens? keyword (xs ++ mark :: next) = some (spelled, rest)) :
    ∃ ys, rest = ys ++ mark :: next ∧
      opens? keyword (xs ++ [mark]) = some (spelled, ys ++ [mark]) := by
  rw [opens?, Option.bind_eq_some_iff] at h
  obtain ⟨cs, hblanks, hletters⟩ := h
  obtain ⟨path, hpath, hblanks⟩ := Option.bind_eq_some_iff.mp hblanks
  obtain ⟨ys, rfl, hpath'⟩ := exists_of_afterDatePath?_mark hmark hpath
  obtain ⟨zs, rfl, hblanks'⟩ := exists_of_blanks?_mark hmark hblanks
  obtain ⟨us, hrest, hletters'⟩ := exists_of_letters?_mark hmark hkeyword hletters
  refine ⟨us, hrest, ?_⟩
  rw [opens?, hpath', Option.bind_some, hblanks', Option.bind_some, hletters']

theorem isSome_word?_mark {xs next : List Char}
    (h : (word? (xs ++ mark :: next)).isSome = true) : (word? (xs ++ [mark])).isSome = true := by
  have hstop : ¬isWord mark = true := by simp [isWord_of_isMark hmark]
  cases xs with
  | nil =>
    rw [List.nil_append, word?, List.takeWhile_cons_of_neg hstop] at h
    cases h
  | cons c xs =>
    by_cases hc : isWord c = true
    · rw [List.cons_append, word?, List.takeWhile_cons_of_pos hc]
      rfl
    · rw [List.cons_append, word?, List.takeWhile_cons_of_neg hc] at h
      cases h

omit hmark in
theorem isSome_char?_mark {c : Char} {xs next : List Char}
    (h : (char? c (xs ++ mark :: next)).isSome = true) :
    (char? c (xs ++ [mark])).isSome = true := by
  have hhead : ∀ (d : Char) us, (char? c (d :: us)).isSome = true ↔ (d == c) = true := by
    intro d us
    rw [char?]
    split <;> simp [*]
  cases xs with
  | nil => exact (hhead mark []).mpr ((hhead mark next).mp h)
  | cons d xs => exact (hhead d _).mpr ((hhead d _).mp h)

/-- A directive with a keyword that starts before a mark ends before it. -/
theorem isSome_during?_mark {xs next : List Char}
    (h : (during? false (xs ++ mark :: next)).isSome = true) :
    (during? false (xs ++ [mark])).isSome = true := by
  rw [during?_false, Option.isSome_iff_exists] at h
  obtain ⟨found, h⟩ := h
  obtain ⟨⟨spelled, cs⟩, hopens, h⟩ := Option.bind_eq_some_iff.mp h
  obtain ⟨gap, hblanks, h⟩ := Option.bind_eq_some_iff.mp h
  obtain ⟨read, hword, -⟩ := Option.bind_eq_some_iff.mp h
  obtain ⟨ys, hcs, hopens'⟩ :=
    exists_of_opens?_mark hmark (mem_capitals_of_isKeyword (by decide)) hopens
  dsimp only at hblanks
  rw [hcs] at hblanks
  obtain ⟨zs, rfl, hblanks'⟩ := exists_of_blanks?_mark hmark hblanks
  obtain ⟨read', hword'⟩ := Option.isSome_iff_exists.mp
    (isSome_word?_mark hmark (Option.isSome_of_eq_some hword))
  rw [during?_false, hopens', Option.bind_some, hblanks', Option.bind_some, hword']
  rfl

/-- A directive with two dates that starts before a mark has its first date open there. -/
theorem isSome_opensDates?_mark {xs next : List Char}
    (h : (between? false (xs ++ mark :: next)).isSome = true) :
    (opensDates? false (xs ++ [mark])).isSome = true := by
  rw [between?_false, Option.isSome_iff_exists] at h
  obtain ⟨found, h⟩ := h
  obtain ⟨⟨spelled, cs⟩, hopens, h⟩ := Option.bind_eq_some_iff.mp h
  obtain ⟨start, hstart, -⟩ := Option.bind_eq_some_iff.mp h
  obtain ⟨ys, hcs, hopens'⟩ :=
    exists_of_opens?_mark hmark (mem_capitals_of_isKeyword (by decide)) hopens
  dsimp only at hstart
  simp only [quotedDate?, Option.bind_eq_bind, Option.bind_eq_some_iff] at hstart
  obtain ⟨gap, hblanks, dates, hchar, -⟩ := hstart
  rw [hcs] at hblanks
  obtain ⟨zs, rfl, hblanks'⟩ := exists_of_blanks?_mark hmark hblanks
  have hdates : opensDates? false (xs ++ [mark]) =
      (opens? Keyword.betweenWord (xs ++ [mark])).bind fun read =>
        (blanks? read.2).bind (char? '\'') := by
    simp [opensDates?, opens?, Option.bind_assoc]
  rw [hdates, hopens', Option.bind_some, hblanks', Option.bind_some]
  exact isSome_char?_mark (Option.isSome_of_eq_some hchar)

end Mark

end AdSearch.Proofs.Query.Opening
