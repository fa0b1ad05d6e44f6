import AdSearch.Proofs.Query.Reading
import AdSearch.Proofs.Query.Soundness

/-!
# Comparisons with an enclosed value

A value in quotation marks or parentheses is kept in one piece, so a comparison with it is read as
one condition, unless the text mentions a date directive or the value does not stay on one line.
-/

namespace AdSearch.Proofs.Query.Enclosed

open AdSearch.Text AdSearch.Query AdSearch.Log AdSearch.Proofs.Text.Blank AdSearch.Proofs.Text.Case
  AdSearch.Proofs.Text.Scan AdSearch.Proofs.Text.Pieces AdSearch.Proofs.Query.Predicate
  AdSearch.Proofs.Query.Tolerance AdSearch.Proofs.Query.Lexing AdSearch.Proofs.Query.Draft
  AdSearch.Proofs.Query.Layout AdSearch.Proofs.Query.Following AdSearch.Proofs.Query.Overlooking
  AdSearch.Proofs.Query.Opening AdSearch.Proofs.Query.Directive AdSearch.Proofs.Query.Splitting
  AdSearch.Proofs.Query.Reading AdSearch.Proofs.Query.Mention AdSearch.Proofs.Query.Soundness

/-! ## Words before a value -/

/-- Words with a space after each. -/
def spacedOut (ws : List (List Char)) : List Char := ws.flatMap fun w => w ++ [' ']

theorem spacedOut_cons (w : List Char) (ws : List (List Char)) (cs : List Char) :
    spacedOut (w :: ws) ++ cs = w ++ ([' '] ++ (spacedOut ws ++ cs)) := by
  simp [spacedOut]

theorem endsWord_spacedOut (ws : List (List Char)) : endsWord false (spacedOut ws) = false := by
  induction ws with
  | nil => rfl
  | cons w ws ih =>
    have hsplit : spacedOut (w :: ws) = (w ++ [' ']) ++ spacedOut ws := by simp [spacedOut]
    have hspace : endsWord false (w ++ [' ']) = false := by
      rw [endsWord_append]
      exact (by decide : isWord ' ' = false)
    rw [hsplit, endsWord_append, hspace, ih]

/-- The words of an operator. -/
def operatorWords : Operator → List (List Char)
  | .notIn => [Keyword.notWord, Keyword.inWord]
  | op => [op.text.toList]

theorem mem_all (op : Operator) : op ∈ Operator.all := by cases op <;> decide

theorem text_operator (op : Operator) : op.text.toList ++ [' '] = spacedOut (operatorWords op) := by
  cases op <;> decide

theorem operatorWords_spec (op : Operator) {w : List Char} (hw : w ∈ operatorWords op) :
    (w ≠ [] ∧ ∀ c ∈ w, isPlain c = true) ∧ (Token.word w).isConjunction = false := by
  have hall : Operator.all.all (fun op => (operatorWords op).all fun w =>
      !w.isEmpty && w.all isPlain && !(Token.word w).isConjunction) = true := by decide
  have hword := List.all_eq_true.mp (List.all_eq_true.mp hall op (mem_all op)) w hw
  simpa [and_assoc] using hword

/-- Whether a text starts with a character that is no blank and no case of a letter. -/
def avoidsLetter (k : Char) : List Char → Bool
  | [] => false
  | c :: _ => !isBlank c && !sameLetter k c

theorem avoidsLetter_append {k : Char} {xs : List Char} (h : avoidsLetter k xs = true)
    (ys : List Char) : avoidsLetter k (xs ++ ys) = true := by
  cases xs with
  | nil => cases h
  | cons c xs => exact h

theorem avoids_of_avoidsLetter {k : Char} {cs : List Char} (h : avoidsLetter k cs = true)
    (keyword : List Char) : Avoids (k :: keyword) (' ' :: cs) := by
  cases cs with
  | nil => cases h
  | cons c cs =>
    rw [avoidsLetter, Bool.and_eq_true, Bool.not_eq_true', Bool.not_eq_true'] at h
    exact avoids_space_cons h.1 h.2 cs

/-- A search for a directive passes over words before which its keyword does not come. -/
theorem passes_spacedOut {k : Char} {keyword : List Char}
    {here? : Bool → List Char → Option (DateRange × List Char)}
    (hopener : Opener (k :: keyword) here?) {ws : List (List Char)} {value : List Char}
    (hplain : ∀ w ∈ ws, ∀ c ∈ w, isPlain c = true)
    (hnext : ∀ w ∈ ws.tail ++ [value], avoidsLetter k w = true) (afterWord : Bool) :
    Passes here? afterWord (spacedOut ws) value := by
  induction ws generalizing afterWord with
  | nil => trivial
  | cons w ws ih =>
    -- behind the space after a word stands the next word, or the value
    have hfollows : avoidsLetter k (spacedOut ws ++ value) = true := by
      cases ws with
      | nil => exact hnext value (by simp)
      | cons w' ws =>
        rw [spacedOut_cons]
        exact avoidsLetter_append (hnext w' (by simp)) _
    have hrest : ∀ w ∈ ws.tail ++ [value], avoidsLetter k w = true := by
      intro w' hw'
      rw [List.mem_append] at hw'
      exact hnext w' (List.mem_append.mpr (hw'.imp_left List.mem_of_mem_tail))
    have hsplit : spacedOut (w :: ws) = w ++ ([' '] ++ spacedOut ws) := by simp [spacedOut]
    rw [hsplit, passes_append, passes_append]
    refine ⟨?_, passes_of_not_isWord hopener (by decide) _ _,
      ih (fun w' hw' => hplain w' (List.mem_cons_of_mem w hw')) hrest _⟩
    exact passes_word hopener (hplain w List.mem_cons_self) rfl
      (avoids_of_avoidsLetter hfollows keyword) afterWord

theorem tokens_spacedOut {ws : List (List Char)}
    (h : ∀ w ∈ ws, w ≠ [] ∧ ∀ c ∈ w, isPlain c = true) (cs : List Char) :
    tokens (spacedOut ws ++ cs) = (ws.flatMap fun w => [.word w, space]) ++ tokens cs := by
  induction ws with
  | nil => rfl
  | cons w ws ih =>
    rw [List.forall_mem_cons] at h
    have hspace : tokens ([' '] ++ (spacedOut ws ++ cs)) = space :: tokens (spacedOut ws ++ cs) :=
      tokens_symbol (by decide) _
    rw [spacedOut_cons, tokens_word h.1.1 h.1.2 rfl, hspace, ih h.2, List.flatMap_cons]
    rfl

theorem chunksFrom_spacedOut {ws : List (List Char)}
    (h : ∀ w ∈ ws, (Token.word w).isConjunction = false) (ts : List Token) :
    chunksFrom 0 ((ws.flatMap fun w => [.word w, space]) ++ ts) =
      consChunk (spacedOut ws) (chunksFrom 0 ts) := by
  have hfree : ∀ t ∈ ws.flatMap fun w => [Token.word w, space],
      isParenthesis t = false ∧ t.isConjunction = false := by
    intro t ht
    obtain ⟨w, hw, ht⟩ := List.mem_flatMap.mp ht
    simp only [List.mem_cons, List.not_mem_nil, or_false] at ht
    rcases ht with rfl | rfl
    · exact ⟨rfl, h w hw⟩
    · exact ⟨by decide, rfl⟩
  have htext : (ws.flatMap fun w => [Token.word w, space]).flatMap markedText = spacedOut ws := by
    rw [List.flatMap_assoc]
    rfl
  rw [chunksFrom_append hfree, htext]

/-! ## Comparisons as texts -/

/-- A field, an operator and a value with a space between them. -/
def comparisonText (f : Path) (op : Operator) (value : List Char) : List Char :=
  f.chars ++ ' ' :: (op.text.toList ++ ' ' :: value)

/-- A value between quotation marks or parentheses that is one chunk. -/
structure IsEnclosed (value : List Char) : Prop where
  opens : ∃ c ∈ ['\'', '"', '('], ∃ rest, value = c :: rest
  closes : ∃ init, ∃ c ∈ ['\'', '"', ')'], value = init ++ [c]
  whole : chunksFrom 0 (tokens value) = [value]

variable {f : Path} {op : Operator} {value : List Char}

theorem comparisonText_eq (f : Path) (op : Operator) (value : List Char) :
    comparisonText f op value = spacedOut (f.chars :: operatorWords op) ++ value := by
  rw [spacedOut_cons, ← text_operator]
  simp [comparisonText]

theorem words_spec (f : Path) (op : Operator) :
    ∀ w ∈ f.chars :: operatorWords op, w ≠ [] ∧ ∀ c ∈ w, isPlain c = true := by
  rw [List.forall_mem_cons]
  exact ⟨⟨Path.ne_nil f, fun _ => Path.isPlain f⟩, fun w hw => (operatorWords_spec op hw).1⟩

namespace IsEnclosed

theorem avoidsLetter (h : IsEnclosed value) {k : Char}
    (hk : ['\'', '"', '('].all (fun c => Enclosed.avoidsLetter k [c]) = true) :
    Enclosed.avoidsLetter k value = true := by
  obtain ⟨c, hc, rest, rfl⟩ := h.opens
  exact List.all_eq_true.mp hk c hc

theorem startsBlank (h : IsEnclosed value) : startsBlank value = false := by
  have hall : ['\'', '"', '('].all (fun c => !isBlank c) = true := by decide
  obtain ⟨c, hc, rest, rfl⟩ := h.opens
  have hblank : isBlank c = false := by simpa using List.all_eq_true.mp hall c hc
  exact hblank

theorem trimRight_append (h : IsEnclosed value) (before : List Char) :
    trimRight (before ++ value) = before ++ value := by
  have hall : ['\'', '"', ')'].all (fun c => !isBlank c) = true := by decide
  obtain ⟨init, c, hc, rfl⟩ := h.closes
  have hblank : ¬isBlank c = true := by simpa using List.all_eq_true.mp hall c hc
  rw [trimRight, ← List.append_assoc, List.reverse_append, List.reverse_singleton,
    List.singleton_append, List.dropWhile_cons_of_neg hblank]
  simp

theorem value?_eq (h : IsEnclosed value) (hline : '\n' ∉ value) :
    value? (' ' :: value) = some value := by
  have htrim : trimLeft (' ' :: value) = value := trimLeft_space h.startsBlank
  have hright := h.trimRight_append []
  rw [List.nil_append] at hright
  obtain ⟨c, -, rest, rfl⟩ := h.opens
  rw [value?, htrim, if_neg (by simpa using hline), hright]

end IsEnclosed

/-! ## Date directives -/

theorem mentions_comparisonText {Form : List Char → Prop} {k : Char} {keyword : List Char}
    {here? : Bool → List Char → Option (DateRange × List Char)}
    (hopener : Opener (k :: keyword) here?)
    (hfind : ∀ cs, (find? here? false cs).isSome = true ↔ Mentions Form cs)
    (hk : Operator.all.all (fun op => (operatorWords op).all (avoidsLetter k)) = true)
    (hvalue : avoidsLetter k value = true) :
    Mentions Form (comparisonText f op value) ↔ Mentions Form value := by
  have hnext : ∀ w ∈ (f.chars :: operatorWords op).tail ++ [value], avoidsLetter k w = true := by
    intro w hw
    rw [List.tail_cons, List.mem_append, List.mem_singleton] at hw
    rcases hw with hw | rfl
    · exact List.all_eq_true.mp (List.all_eq_true.mp hk op (mem_all op)) w hw
    · exact hvalue
  have hpasses := passes_spacedOut hopener (fun w hw => (words_spec f op w hw).2) hnext false
  rw [← hfind, ← hfind, comparisonText_eq, find?_of_passes value hpasses, endsWord_spacedOut,
    Option.isSome_map]

theorem mentions_during_comparisonText (h : IsEnclosed value) :
    Mentions DuringText (comparisonText f op value) ↔ Mentions DuringText value :=
  mentions_comparisonText opener_during isSome_find?_during_iff (by decide)
    (h.avoidsLetter (by decide))

theorem mentions_between_comparisonText (h : IsEnclosed value) :
    Mentions BetweenText (comparisonText f op value) ↔ Mentions BetweenText value :=
  mentions_comparisonText opener_between isSome_find?_between_iff (by decide)
    (h.avoidsLetter (by decide))

theorem takeDateRange_comparisonText (h : IsEnclosed value) (hduring : ¬Mentions DuringText value)
    (hbetween : ¬Mentions BetweenText value) :
    takeDateRange (comparisonText f op value) = (none, comparisonText f op value) :=
  takeDateRange_eq_self (by rwa [mentions_during_comparisonText h])
    (by rwa [mentions_between_comparisonText h])

/-! ## One predicate -/

theorem commaMark_ne_space : commaMark ≠ ' ' := by decide

theorem not_mem_spacedOut (f : Path) (op : Operator) :
    commaMark ∉ f.chars ∧ commaMark ∉ spacedOut (operatorWords op) := by
  constructor
  · intro hmem
    exact absurd (f.isPath.1 commaMark hmem) (by decide)
  · have hall : Operator.all.all (fun op =>
        !(spacedOut (operatorWords op)).contains commaMark) = true := by decide
    simpa using List.all_eq_true.mp hall op (mem_all op)

theorem mergePieces_of_not_mem {chunk : List Char} (h : commaMark ∉ chunk) (hne : trim chunk ≠ []) :
    mergePieces ((splitOn commaMark chunk).map trim) = [trim chunk] := by
  rw [splitOn_eq_singleton h]
  simp [mergePieces, gluePieces, hne]

/-- The operator and the value are a text without blanks at its ends. -/
theorem trim_operator_value (h : IsEnclosed value) {gap : List Char}
    (hgap : ∀ c ∈ gap, isBlank c = true) :
    trim (gap ++ (spacedOut (operatorWords op) ++ value)) =
      spacedOut (operatorWords op) ++ value := by
  have hall : Operator.all.all (fun op =>
      !startsBlank (spacedOut (operatorWords op)) && !(spacedOut (operatorWords op)).isEmpty) =
        true := by decide
  have hwords := List.all_eq_true.mp hall op (mem_all op)
  obtain ⟨c, rest, hchars⟩ : ∃ c rest, spacedOut (operatorWords op) = c :: rest :=
    List.exists_cons_of_ne_nil (by simp at hwords; exact hwords.2)
  have hstarts : startsBlank (spacedOut (operatorWords op) ++ value) = false := by
    rw [hchars] at hwords ⊢
    simpa [startsBlank] using hwords
  rw [trim, trimLeft_append hgap, trimLeft_eq_self hstarts, h.trimRight_append]

theorem startsBlank_comparisonText : startsBlank (comparisonText f op value) = false := by
  obtain ⟨c, rest, hchars⟩ := List.exists_cons_of_ne_nil (Path.ne_nil f)
  have hplain := Path.isPlain f (c := c) (by rw [hchars]; exact List.mem_cons_self)
  rw [comparisonText, hchars]
  exact isBlank_of_isPlain hplain

theorem splitPredicates_comparisonText (h : IsEnclosed value) (hmark : commaMark ∉ value)
    (hfree : f.token.isConjunction = false) :
    splitPredicates (comparisonText f op value) = [comparisonText f op value] := by
  have hconj : ∀ w ∈ f.chars :: operatorWords op, (Token.word w).isConjunction = false := by
    rw [List.forall_mem_cons]
    exact ⟨hfree, fun w hw => (operatorWords_spec op hw).2⟩
  have hchunks : chunksFrom 0 (tokens (comparisonText f op value)) =
      [comparisonText f op value] := by
    rw [comparisonText_eq, tokens_spacedOut (words_spec f op), chunksFrom_spacedOut hconj, h.whole]
    rfl
  have htrim : trim (comparisonText f op value) = comparisonText f op value := by
    rw [trim, trimLeft_eq_self startsBlank_comparisonText, comparisonText_eq, h.trimRight_append]
  have hfreeOfMark : commaMark ∉ comparisonText f op value := by
    obtain ⟨hf, hop⟩ := not_mem_spacedOut f op
    rw [comparisonText_eq, spacedOut_cons]
    simp [hf, hop, hmark, commaMark_ne_space]
  have hne : trim (comparisonText f op value) ≠ [] := by
    rw [htrim, comparisonText]
    simp
  rw [splitPredicates, hchunks, List.flatMap_singleton, mergePieces_of_not_mem hfreeOfMark hne,
    htrim]

/-- A field that is a conjunction is cut off. -/
theorem splitPredicates_conjunction (h : IsEnclosed value) (hmark : commaMark ∉ value)
    (hconj : f.token.isConjunction = true) :
    splitPredicates (comparisonText f op value) = [op.text.toList ++ ' ' :: value] := by
  have htext : spacedOut (operatorWords op) ++ value = op.text.toList ++ ' ' :: value := by
    rw [← text_operator]
    simp
  have hchunks : chunksFrom 0 (tokens (comparisonText f op value)) =
      [[], [' '] ++ (spacedOut (operatorWords op) ++ value)] := by
    have hopen : ¬f.token = .symbol '(' := by simp [Path.token]
    have hclose : ¬f.token = .symbol ')' := by simp [Path.token]
    rw [comparisonText_eq, tokens_spacedOut (words_spec f op), List.flatMap_cons]
    change chunksFrom 0 (f.token :: space ::
      (((operatorWords op).flatMap fun w => [.word w, space]) ++ tokens value)) = _
    rw [chunksFrom, if_neg hopen, if_neg hclose, if_pos ⟨rfl, hconj⟩,
      chunksFrom_cons (by decide) rfl,
      chunksFrom_spacedOut fun w hw => (operatorWords_spec op hw).2, h.whole]
    rfl
  have hblank : ∀ c ∈ [' '], isBlank c = true := blanks_space.2
  have hfreeOfMark : commaMark ∉ [' '] ++ (spacedOut (operatorWords op) ++ value) := by
    have hop := (not_mem_spacedOut f op).2
    simp [hop, hmark, commaMark_ne_space]
  have htrim : trim ([' '] ++ (spacedOut (operatorWords op) ++ value)) = _ :=
    trim_operator_value h hblank
  have hne : trim ([' '] ++ (spacedOut (operatorWords op) ++ value)) ≠ [] := by
    rw [htrim, htext]
    simp
  rw [splitPredicates, hchunks, List.flatMap_cons, List.flatMap_singleton,
    mergePieces_of_not_mem hfreeOfMark hne, htrim, htext]
  rfl

/-! ## Reading -/

/-- An operator is a symbol, or a word operator that is spelled as its text. -/
theorem symbol_or_operatorWord (op : Operator) :
    op ∈ [.eq, .ne, .gt, .lt, .ge, .le] ∨
      OperatorWord op.text.toList op.text.toList ∧
        upper op.text.toList = op.text.toList := by
  cases op with
  | isIn => exact Or.inr ⟨.isIn (by decide), by decide⟩
  | like => exact Or.inr ⟨.like (by decide), by decide⟩
  | notIn =>
    have hword : OperatorWord (Keyword.notWord ++ ([' '] ++ Keyword.inWord))
        (Keyword.notWord ++ ' ' :: Keyword.inWord) :=
      .notIn (by decide) blanks_space (by decide)
    exact Or.inr ⟨hword, by decide⟩
  | _ => exact Or.inl (by decide)

theorem sign_starts {c : Char} (hc : c ∈ signs) :
    isBlank c = false ∧ (isWord c || c == '.') = false := by
  have hall : signs.all (fun c => !isBlank c && !(isWord c || c == '.')) = true := by decide
  have hsign := List.all_eq_true.mp hall c hc
  rwa [Bool.and_eq_true, Bool.not_eq_true', Bool.not_eq_true'] at hsign

theorem read_comparisonText (h : IsEnclosed value) (hline : '\n' ∉ value) :
    Predicate.read (comparisonText f op value) = Predicate.ofParts f.chars op value := by
  have hvalue := h.value?_eq hline
  rw [comparisonText, Predicate.read, fieldPath?_append f.isPath (startsPath_space _),
    Option.bind_some]
  dsimp only
  rcases symbol_or_operatorWord op with hsymbol | ⟨hword, hupper⟩
  · obtain ⟨c, hc, rest, hchars⟩ := exists_sign_of_text hsymbol
    obtain ⟨others, hsymbols⟩ := symbolOperators_text hsymbol value
    have hnone : wordPredicate? f.chars (' ' :: (op.text.toList ++ ' ' :: value)) = none := by
      rw [hchars, wordPredicate?, List.cons_append, wordOperator?_sign hc]
      rfl
    have hstarts : startsBlank (op.text.toList ++ ' ' :: value) = false := by
      rw [hchars]
      exact (sign_starts hc).1
    rw [hnone, Option.none_or, symbolPredicate?, trimLeft_space hstarts, hsymbols,
      List.findSome?_cons]
    dsimp only
    rw [hvalue]
    rfl
  · have hread := wordOperator?_append blanks_space hword (startsWord_space value)
    rw [List.singleton_append] at hread
    simp only [wordPredicate?, hread, Option.bind_eq_bind, Option.bind_some, hvalue, hupper,
      String.ofList_toList, ofText?_text, Option.some_or]
    rfl

/-- Without a field, the first word of the operator is taken for one. -/
theorem mem_operatorWords_of_fieldPath? {w rest : List Char}
    (h : fieldPath? (op.text.toList ++ ' ' :: value) = some (w, rest)) : w ∈ operatorWords op := by
  have hsymbol : op ∈ [.eq, .ne, .gt, .lt, .ge, .le] → w ∈ operatorWords op := by
    intro hop
    obtain ⟨c, hc, text, hchars⟩ := exists_sign_of_text hop
    obtain ⟨hpath, heq, -⟩ := exists_of_fieldPath? h
    obtain ⟨d, w, rfl⟩ := List.exists_cons_of_ne_nil (Path.ne_nil ⟨w, hpath⟩)
    rw [hchars] at heq
    obtain ⟨rfl, -⟩ := List.cons.inj heq
    have hchar := hpath.1 c List.mem_cons_self
    rw [(sign_starts hc).2] at hchar
    cases hchar
  have hword : ∀ {first : List Char} {next : List Char}, IsPath first →
      op.text.toList ++ ' ' :: value = first ++ ' ' :: next → w = first := by
    intro first next hpath heq
    rw [heq, fieldPath?_append hpath (startsPath_space next)] at h
    exact (Prod.mk.inj (Option.some.inj h)).1.symm
  cases op with
  | isIn => exact List.mem_singleton.mpr (hword ⟨List.all_eq_true.mp (by decide), by decide⟩ rfl)
  | like => exact List.mem_singleton.mpr (hword ⟨List.all_eq_true.mp (by decide), by decide⟩ rfl)
  | notIn =>
    have hnot : w = Keyword.notWord := hword ⟨List.all_eq_true.mp (by decide), by decide⟩ rfl
    exact hnot ▸ List.mem_cons_self
  | _ => exact hsymbol (by decide)

theorem field_ne_conjunction {text : List Char} {c : Condition}
    (htext : text = op.text.toList ++ ' ' :: value) (hread : Predicate.read text = .condition c)
    (hconj : f.token.isConjunction = true) : c.field ≠ String.ofList f.chars := by
  obtain ⟨field, rest, _, heq, hpath, hstop, -, -, -, -, hcondition⟩ := exists_of_read hread
  have hfield := fieldPath?_append hpath hstop
  rw [← heq, htext] at hfield
  intro hc
  rw [hcondition, String.ofList_inj] at hc
  have hfree := (operatorWords_spec op (mem_operatorWords_of_fieldPath? hfield)).2
  rw [hc] at hfree
  rw [Path.token, hfree] at hconj
  cases hconj

/-! ## Predicates hold no mark -/

theorem not_mem_gluePieces {pieces : List (List Char)} (h : ∀ piece ∈ pieces, commaMark ∉ piece) :
    commaMark ∉ (gluePieces pieces).1 ∧ ∀ text ∈ (gluePieces pieces).2, commaMark ∉ text := by
  induction pieces with
  | nil => simp [gluePieces]
  | cons piece pieces ih =>
    rw [List.forall_mem_cons] at h
    obtain ⟨htail, hpredicates⟩ := ih h.2
    simp only [gluePieces]
    split
    · refine ⟨by simp, ?_⟩
      rw [List.forall_mem_cons]
      exact ⟨by simp [h.1, htail], hpredicates⟩
    · split
      · exact ⟨htail, hpredicates⟩
      · exact ⟨by simp [h.1, htail, commaMark_ne_space, (by decide : commaMark ≠ ',')], hpredicates⟩

theorem not_mem_mergePieces {pieces : List (List Char)} (h : ∀ piece ∈ pieces, commaMark ∉ piece) :
    ∀ text ∈ mergePieces pieces, commaMark ∉ text := by
  induction pieces with
  | nil => simp [mergePieces]
  | cons piece pieces ih =>
    rw [List.forall_mem_cons] at h
    obtain ⟨htail, hpredicates⟩ := not_mem_gluePieces h.2
    rw [mergePieces]
    split
    · exact ih h.2
    · rw [List.forall_mem_cons]
      exact ⟨by simp [h.1, htail], hpredicates⟩

theorem not_mem_splitPredicates {cs text : List Char} (h : text ∈ splitPredicates cs) :
    commaMark ∉ text := by
  obtain ⟨chunk, -, htext⟩ := List.mem_flatMap.mp h
  refine not_mem_mergePieces (fun piece hpiece hmem => ?_) text htext
  obtain ⟨raw, hraw, rfl⟩ := List.mem_map.mp hpiece
  exact (mem_of_mem_splitOn hraw).1 (trim_subset raw hmem)

/-! ## One condition -/

/-- A comparison with an enclosed value is read as one condition. -/
theorem readConditions_comparisonText (h : IsEnclosed value)
    (hdate : isDatePath f.chars = false) (hfree : f.token.isConjunction = false)
    (hne : shownValue op value ≠ []) (hmark : commaMark ∉ value) (hline : '\n' ∉ value)
    (hduring : ¬Mentions DuringText value) (hbetween : ¬Mentions BetweenText value) :
    readConditions (comparisonText f op value) = ⟨[], .ok ([⟨String.ofList f.chars, op,
      String.ofList (shownValue op value)⟩], none)⟩ := by
  have hparts : Predicate.ofParts f.chars op value =
      .condition ⟨String.ofList f.chars, op, String.ofList (shownValue op value)⟩ := by
    change (if (shownValue op value).isEmpty then _ else _) = _
    rw [if_neg (by simpa using hne), if_neg (by simp [hdate])]
    rfl
  rw [readConditions_eq, predicateTexts, takeDateRange_comparisonText h hduring hbetween,
    splitPredicates_comparisonText h hmark hfree, readPredicates_cons, condition?,
    read_comparisonText h hline, hparts]
  rfl

/-- What is read as one condition on the field has been read from the comparison as a whole. -/
theorem of_readConditions_comparisonText (h : IsEnclosed value) {c : Condition}
    (hread : (readConditions (comparisonText f op value)).result = .ok ([c], none))
    (hfield : c.field = String.ofList f.chars) :
    isDatePath f.chars = false ∧ (commaMark ∉ value → f.token.isConjunction = false) ∧
      ¬Mentions DuringText value ∧ ¬Mentions BetweenText value ∧
      c.value ≠ "" ∧ commaMark ∉ c.value.toList ∧ '\n' ∉ c.value.toList := by
  have hnone := (takeDateRange_fst_eq_none_iff _).mp (range_of_readConditions hread).symm
  rw [mentions_during_comparisonText h, mentions_between_comparisonText h] at hnone
  obtain ⟨text, hmem, htext⟩ := exists_predicateText hread List.mem_cons_self
  rw [predicateTexts, takeDateRange_comparisonText h hnone.1 hnone.2] at hmem
  obtain ⟨field, rest, shown, heq, -, -, hdate, hne, hline, hsub, hcondition⟩ :=
    exists_of_read htext
  have hf : field = f.chars := by
    rw [hcondition, String.ofList_inj] at hfield
    exact hfield
  have hmark := not_mem_splitPredicates hmem
  refine ⟨hf ▸ hdate, ?_, hnone.1, hnone.2, ?_, ?_, ?_⟩
  · -- a conjunction is cut off, and then no condition is on it
    intro hvalue
    cases hconj : f.token.isConjunction with
    | false => rfl
    | true =>
      rw [splitPredicates_conjunction h hvalue hconj, List.mem_singleton] at hmem
      exact absurd hfield (field_ne_conjunction hmem htext hconj)
  · rw [hcondition]
    intro hempty
    apply hne
    rwa [String.ofList_eq_empty_iff] at hempty
  · rw [hcondition, String.toList_ofList]
    intro hc
    rw [heq] at hmark
    exact hmark (List.mem_append_right field (hsub hc))
  · rw [hcondition, String.toList_ofList]
    exact hline

end AdSearch.Proofs.Query.Enclosed
