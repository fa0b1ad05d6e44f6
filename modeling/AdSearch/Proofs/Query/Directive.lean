import AdSearch.Proofs.Query.Opening

/-!
# Date directives in a draft

A directive is found where it is drafted and nowhere else: a date path has its keyword only there,
and the literals hold none.  So taking the directives out leaves the other conjuncts and the
separators as they were.
-/

namespace AdSearch.Proofs.Query.Directive

open AdSearch.Text AdSearch.Query AdSearch.Proofs.Text.Blank AdSearch.Proofs.Text.Scan
  AdSearch.Proofs.Query.Lexing AdSearch.Proofs.Query.Draft AdSearch.Proofs.Query.Layout
  AdSearch.Proofs.Query.Following AdSearch.Proofs.Query.Overlooking AdSearch.Proofs.Query.Opening

/-! ## What the readers pass over -/

section Opener

variable {keyword : List Char} {here? : Bool → List Char → Option (DateRange × List Char)}
  (hopener : Opener keyword here?)

include hopener

theorem passes_of_not_isWord {c : Char} (hc : isWord c = false) (afterWord : Bool)
    (next : List Char) : Passes here? afterWord [c] next :=
  ⟨hopener.of_opens? _ _ (opens?_of_not_isWord hc keyword next), trivial⟩

theorem passes_word {w next : List Char} (hw : ∀ c ∈ w, isPlain c = true)
    (hnext : endsToken next = true) (havoids : Avoids keyword next) (afterWord : Bool) :
    Passes here? afterWord w next := by
  induction w generalizing afterWord with
  | nil => trivial
  | cons c w ih =>
    have hblank : ∀ d ∈ c :: w, isBlank d = false := fun d hd => isBlank_of_isPlain (hw d hd)
    have hopens : opens? keyword (c :: (w ++ next)) = none :=
      opens?_of_avoids hblank hnext havoids
    exact ⟨hopener.of_opens? _ _ hopens, ih (fun d hd => hw d (List.mem_cons_of_mem c hd)) _⟩

theorem passes_after_word {w : List Char} (hw : ∀ c ∈ w, isWord c = true) (next : List Char) :
    Passes here? true w next := by
  induction w with
  | nil => trivial
  | cons c w ih =>
    refine ⟨hopener.after_word _, ?_⟩
    rw [hw c List.mem_cons_self]
    exact ih fun d hd => hw d (List.mem_cons_of_mem c hd)

/-- A keyword is one word, which is not `date`. -/
theorem passes_keyword {other : List Char} (hother : isKeyword other = true)
    (hdate : sameLetters other Keyword.dateWord = false) (s : Spelling other) {next : List Char}
    (hnext : endsToken next = true) (afterWord : Bool) : Passes here? afterWord s.chars next := by
  have hsame := Spelling.sameLetters_chars hother s
  have hnotDate : sameLetters s.chars Keyword.dateWord = false := by
    rw [sameLetters, beq_iff_eq] at hsame
    rwa [sameLetters, ← hsame]
  have hwords : ∀ c ∈ s.chars, isWord c = true := fun _ hc => Spelling.isWord hother s hc
  have hpath : afterDatePath? [] (s.chars ++ next) = none :=
    afterDatePath?_of_words [] hwords hnotDate hnext
  have hopens : opens? keyword (s.chars ++ next) = none := by
    rw [opens?, hpath]
    rfl
  cases hchars : s.chars with
  | nil => trivial
  | cons c w =>
    rw [hchars] at hopens hwords
    refine ⟨hopener.of_opens? _ _ hopens, ?_⟩
    rw [hwords c List.mem_cons_self]
    exact passes_after_word hopener (fun d hd => hwords d (List.mem_cons_of_mem c hd)) next

theorem passes_inner {mark : Char} {short? : Bool → List Char → Option α}
    (hshort : ∀ xs next, (here? false (xs ++ mark :: next)).isSome = true →
      (short? false (xs ++ [mark])).isSome = true) {inner : List Char} {afterWord : Bool}
    (hnone : find? short? afterWord (inner ++ [mark]) = none) (next : List Char) :
    Passes here? afterWord inner (mark :: next) := by
  induction inner generalizing afterWord with
  | nil => trivial
  | cons c inner ih =>
    rw [List.cons_append] at hnone
    obtain ⟨hhere, hrest⟩ := find?_cons_eq_none hnone
    refine ⟨?_, ih hrest⟩
    cases afterWord with
    | true => exact hopener.after_word _
    | false =>
      cases hread : here? false (c :: (inner ++ mark :: next)) with
      | none => rfl
      | some found =>
        -- what is found with the text after the mark would be found without it
        have hsome := hshort (c :: inner) next (by rw [List.cons_append, hread]; rfl)
        rw [List.cons_append, hhere] at hsome
        cases hsome

theorem passes_quoted {short? : Bool → List Char → Option α} (q : Quoted)
    (hshort : ∀ xs next, (here? false (xs ++ q.mark :: next)).isSome = true →
      (short? false (xs ++ [q.mark])).isSome = true)
    (hnone : find? short? false (q.inner ++ [q.mark]) = none) (afterWord : Bool)
    (next : List Char) : Passes here? afterWord q.text next := by
  have hword := isWord_of_isMark q.isMark
  have htext : q.text = [q.mark] ++ (q.inner ++ [q.mark]) := by simp [Quoted.text, Piece.text]
  have hstart : endsWord afterWord [q.mark] = false := hword
  rw [htext, passes_append, passes_append, hstart]
  exact ⟨passes_of_not_isWord hopener hword _ _, passes_inner hopener hshort hnone next,
    passes_of_not_isWord hopener hword _ _⟩

end Opener

theorem passes_during?_quoted (q : Quoted) (afterWord : Bool) (next : List Char) :
    Passes during? afterWord q.text next :=
  passes_quoted opener_during q (fun _ _ => isSome_during?_mark q.isMark) q.noDuring afterWord next

theorem passes_between?_literal (l : Literal) (afterWord : Bool) (next : List Char) :
    Passes between? afterWord l.text next :=
  passes_quoted opener_between l.toQuoted (fun _ _ => isSome_opensDates?_mark l.isMark) l.noBetween
    afterWord next

/-! ## The searches -/

def directiveSearch (keyword : List Char)
    (here? : Bool → List Char → Option (DateRange × List Char)) :
    Search (DateRange × List Char) where
  here? := here?
  shown := Token.text
  fits next := endsToken next = true ∧ Avoids keyword next
  quiet _ := True

theorem regular_directiveSearch {k : Char} {keyword : List Char}
    {here? : Bool → List Char → Option (DateRange × List Char)}
    (hopener : Opener (k :: keyword) here?)
    (hclash : joints.all (clash (k :: keyword)) = true)
    (hsign : signs.all (fun c => !sameLetter k c) = true)
    (hliteral : ∀ (l : Literal) afterWord next, Passes here? afterWord l.text next) :
    (directiveSearch (k :: keyword) here?).Regular (k :: keyword) := by
  have hsigns : signs.all (fun c => !isWord c && !isBlank c) = true := by decide
  have hfixed : ([Keyword.duringWord, Keyword.betweenWord] ++ joints).all (fun other =>
      isKeyword other && !sameLetters other Keyword.dateWord) = true := by decide
  refine {
    shown_word := fun _ => rfl
    shown_symbol := fun _ => rfl
    fits_iff := fun _ => Iff.rfl
    clash_joint := List.all_eq_true.mp hclash
    avoids_sign := ?_
    of_word := fun hw afterWord _ hnext => passes_word hopener hw hnext.1 hnext.2 afterWord
    of_keyword := ?_
    of_sign := ?_
    of_space := fun afterWord next _ => passes_of_not_isWord hopener (by decide) _ _
    of_literal := hliteral
    quiet_word := fun _ _ _ _ _ => trivial
    quiet_keyword := fun _ _ _ _ => trivial
    quiet_sign := fun _ _ _ => trivial
    quiet_literal := fun _ _ => trivial }
  · intro c hc next
    have hblank := List.all_eq_true.mp hsigns c hc
    have hletter := List.all_eq_true.mp hsign c hc
    simp only [Bool.and_eq_true, Bool.not_eq_true'] at hblank hletter
    exact avoids_space_cons hblank.2 hletter next
  · intro other s hother afterWord next hnext
    have hmem : other ∈ [Keyword.duringWord, Keyword.betweenWord] ++ joints := by
      rw [List.mem_append]
      exact hother
    have hword := List.all_eq_true.mp hfixed other hmem
    simp only [Bool.and_eq_true, Bool.not_eq_true'] at hword
    exact passes_keyword hopener hword.1 hword.2 s hnext afterWord
  · intro c hc afterWord next
    have hword := List.all_eq_true.mp hsigns c hc
    simp only [Bool.and_eq_true, Bool.not_eq_true'] at hword
    exact passes_of_not_isWord hopener hword.1 afterWord next

theorem regular_during :
    (directiveSearch Keyword.duringWord during?).Regular Keyword.duringWord :=
  regular_directiveSearch opener_during (by decide) (by decide +kernel)
    fun l => passes_during?_quoted l.toQuoted

theorem regular_between :
    (directiveSearch Keyword.betweenWord between?).Regular Keyword.betweenWord :=
  regular_directiveSearch opener_between (by decide) (by decide +kernel)
    passes_between?_literal

end AdSearch.Proofs.Query.Directive
