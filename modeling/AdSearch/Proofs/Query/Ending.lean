import AdSearch.Proofs.Query.Overlooking
import AdSearch.Proofs.Text.Pieces

/-!
# Where the conditions of a draft end

The conditions end at the ending of the draft and not before: the literals are masked, only the
first field may be a keyword that ends them, and `ORDER` never has `BY` after it.
-/

namespace AdSearch.Proofs.Query.Ending

open AdSearch.Text AdSearch.Query AdSearch.Proofs.Text.Blank AdSearch.Proofs.Text.Case
  AdSearch.Proofs.Text.Scan AdSearch.Proofs.Text.Pieces AdSearch.Proofs.Query.Lexing
  AdSearch.Proofs.Query.Draft AdSearch.Proofs.Query.Layout AdSearch.Proofs.Query.Following
  AdSearch.Proofs.Query.Overlooking

/-- Whether an ordering, a limit or parameters stand at the start of a text. -/
def opensTail (cs : List Char) : Bool :=
  ((closing? Keyword.limitWord cs).or <| (closing? Keyword.parametersWord cs).or <|
    ((letters? Keyword.orderWord cs).bind fun (_, rest) => blanks? rest).bind
      (closing? Keyword.byWord)).isSome

theorem endsConditions_of_not_startsBlank {cs : List Char} (h : startsBlank cs = false) :
    endsConditions cs = false := by
  rw [endsConditions, blanks?_of_not_startsBlank h]
  rfl

theorem endsConditions_space (cs : List Char) :
    endsConditions (' ' :: cs) = opensTail (trimLeft cs) := rfl

/-! ## Texts that open no tail -/

theorem closing?_of_letters? {keyword cs : List Char} (h : letters? keyword cs = none) :
    closing? keyword cs = none := by
  rw [closing?, h]
  rfl

theorem opensTail_of_letters? {cs : List Char} (hlimit : letters? Keyword.limitWord cs = none)
    (hparameters : letters? Keyword.parametersWord cs = none)
    (horder : letters? Keyword.orderWord cs = none) : opensTail cs = false := by
  rw [opensTail, closing?_of_letters? hlimit, closing?_of_letters? hparameters, horder]
  rfl

theorem opensTail_cons {c : Char} (h : !sameLetter 'L' c && !sameLetter 'P' c && !sameLetter 'O' c)
    (cs : List Char) : opensTail (c :: cs) = false := by
  simp only [Bool.and_eq_true, Bool.not_eq_true'] at h
  exact opensTail_of_letters? (letters?_cons_of_ne h.1.1 _ cs) (letters?_cons_of_ne h.1.2 _ cs)
    (letters?_cons_of_ne h.2 _ cs)

theorem opensTail_word {w next : List Char} (hw : ∀ c ∈ w, isPlain c = true)
    (hstays : leadsOut w = false) (hnext : endsToken next = true)
    (hby : Avoids Keyword.byWord next) : opensTail (w ++ next) = false := by
  simp only [leadsOut, Bool.or_eq_false_iff, Option.isSome_eq_false_iff, Option.isNone_iff_eq_none]
    at hstays
  have hlimit : closing? Keyword.limitWord (w ++ next) = none := by
    rw [closing?_append_of_endsToken (mem_capitals_of_isKeyword (by decide)) w hnext, hstays.1]
    rfl
  have hparameters : closing? Keyword.parametersWord (w ++ next) = none := by
    rw [closing?_append_of_endsToken (mem_capitals_of_isKeyword (by decide)) w hnext, hstays.2]
    rfl
  have horder : ((letters? Keyword.orderWord (w ++ next)).bind fun (_, rest) => blanks? rest).bind
      (closing? Keyword.byWord) = none := by
    rw [letters?_append_of_endsToken (mem_capitals_of_isKeyword (by decide)) w hnext]
    cases hread : letters? Keyword.orderWord w with
    | none => rfl
    | some read =>
      obtain ⟨spelled, rest⟩ := read
      obtain ⟨rfl, -⟩ := exists_of_letters? hread
      change (blanks? (rest ++ next)).bind (closing? Keyword.byWord) = none
      -- either the word is `ORDER` itself and `BY` does not follow, or it goes on without a blank
      cases rest with
      | nil =>
        rw [List.nil_append]
        rw [Avoids, Option.bind_eq_none_iff] at hby
        exact Option.bind_eq_none_iff.mpr fun cs hcs => closing?_of_letters? (hby cs hcs)
      | cons c rest =>
        have hc : startsBlank (c :: (rest ++ next)) = false :=
          isBlank_of_isPlain (hw c (List.mem_append_right _ List.mem_cons_self))
        rw [List.cons_append, blanks?_of_not_startsBlank hc]
        rfl
  rw [opensTail, hlimit, hparameters, horder]
  rfl

theorem letters?_of_length_lt {keyword w : List Char} (h : w.length < keyword.length) :
    letters? keyword w = none := by
  cases hread : letters? keyword w with
  | none => rfl
  | some read =>
    obtain ⟨hw, hsame⟩ := exists_of_letters? hread
    have hlength : keyword.length = read.1.length := by
      have hmap := congrArg List.length (beq_iff_eq.mp hsame)
      simpa using hmap
    rw [hw, List.length_append] at h
    omega

/-- A keyword that is neither `LIMIT` nor `PARAMETERS` nor starts with `ORDER`. -/
def staysInside (keyword : List Char) : Bool :=
  isKeyword keyword && clash Keyword.limitWord keyword && clash Keyword.parametersWord keyword &&
    (clash Keyword.orderWord keyword || decide (keyword.length < Keyword.orderWord.length))

theorem isKeyword_of_staysInside {keyword : List Char} (h : staysInside keyword = true) :
    isKeyword keyword = true := by
  simp only [staysInside, Bool.and_eq_true] at h
  exact h.1.1.1

theorem opensTail_keyword {keyword : List Char} (h : staysInside keyword = true)
    (s : Spelling keyword) {next : List Char} (hnext : endsToken next = true) :
    opensTail (s.chars ++ next) = false := by
  simp only [staysInside, Bool.and_eq_true, Bool.or_eq_true, decide_eq_true_eq] at h
  obtain ⟨⟨⟨hkeyword, hlimit⟩, hparameters⟩, horder⟩ := h
  have hsame := Spelling.sameLetters_chars hkeyword s
  refine opensTail_of_letters? (letters?_of_clash hlimit hsame next)
    (letters?_of_clash hparameters hsame next) ?_
  rcases horder with horder | hshort
  · exact letters?_of_clash horder hsame next
  · have hlength := congrArg List.length s.upper_eq
    rw [List.length_map] at hlength
    rw [letters?_append_of_endsToken (mem_capitals_of_isKeyword (by decide)) s.chars hnext,
      letters?_of_length_lt (by omega)]
    rfl

/-! ## The search for the end -/

def endingSearch : Search Unit where
  here? _ here := if endsConditions here then some () else none
  shown := maskOf
  fits next := endsToken next = true ∧ Avoids Keyword.byWord next
  quiet next := opensTail (trimLeft next) = false

theorem passes_of_no_blank {w : List Char} (hw : ∀ c ∈ w, isBlank c = false) (afterWord : Bool)
    (next : List Char) : Passes endingSearch.here? afterWord w next := by
  refine Search.passes_of_no_blank (fun afterWord cs hcs => ?_) hw afterWord next
  exact if_neg (by simp [endsConditions_of_not_startsBlank hcs])

theorem maskOf_quoted (q : Quoted) :
    maskOf q.token = '_' :: List.replicate (q.inner.length + 1) '_' := by
  simp [maskOf, Quoted.token, Quoted.text, Piece.text, ← List.replicate_succ]

theorem passes_maskOf_quoted (q : Quoted) (afterWord : Bool) (next : List Char) :
    Passes endingSearch.here? afterWord (maskOf q.token) next := by
  apply passes_of_no_blank
  intro c hc
  have hmem : c ∈ List.replicate (q.inner.length + 2) '_' := by
    rw [List.replicate_succ, ← maskOf_quoted]
    exact hc
  rw [List.eq_of_mem_replicate hmem]
  decide

/-- A text that does not start with a blank is quiet if it opens no tail. -/
theorem quiet_of_opensTail {next : List Char} (hblank : startsBlank next = false)
    (h : opensTail next = false) : endingSearch.quiet next := by
  change opensTail (trimLeft next) = false
  rwa [trimLeft_eq_self hblank]

/-- Signs are no blanks and no first letters of the keywords that end the conditions. -/
theorem sign_spec {c : Char} (hc : c ∈ signs) : isBlank c = false ∧ sameLetter 'B' c = false ∧
    (!sameLetter 'L' c && !sameLetter 'P' c && !sameLetter 'O' c) = true := by
  have hall : signs.all (fun c => !isBlank c && (!sameLetter 'B' c &&
      (!sameLetter 'L' c && !sameLetter 'P' c && !sameLetter 'O' c))) = true := by decide
  have hsign := List.all_eq_true.mp hall c hc
  rwa [Bool.and_eq_true, Bool.and_eq_true, Bool.not_eq_true', Bool.not_eq_true'] at hsign

theorem staysInside_of_mem {keyword : List Char}
    (h : keyword ∈ [Keyword.duringWord, Keyword.betweenWord] ∨ keyword ∈ joints) :
    staysInside keyword = true := by
  have hall : ([Keyword.duringWord, Keyword.betweenWord] ++ joints).all staysInside = true := by
    decide
  exact List.all_eq_true.mp hall keyword (List.mem_append.mpr h)

theorem passes_of_isPlain {w : List Char} (hw : ∀ c ∈ w, isPlain c = true) (afterWord : Bool)
    (next : List Char) : Passes endingSearch.here? afterWord w next :=
  passes_of_no_blank (fun c hc => isBlank_of_isPlain (hw c hc)) afterWord next

theorem regular_ending : endingSearch.Regular Keyword.byWord := by
  have hclash : joints.all (clash Keyword.byWord) = true := by decide
  refine {
    shown_word := fun _ => rfl
    shown_symbol := fun _ => rfl
    fits_iff := fun _ => Iff.rfl
    clash_joint := List.all_eq_true.mp hclash
    avoids_sign := fun c hc next =>
      avoids_space_cons (sign_spec hc).1 (sign_spec hc).2.1 next
    of_word := fun hw afterWord next _ => passes_of_isPlain hw afterWord next
    of_keyword := ?_
    of_sign := ?_
    of_space := ?_
    of_literal := fun l => passes_maskOf_quoted l.toQuoted
    quiet_word := ?_
    quiet_keyword := ?_
    quiet_sign := ?_
    quiet_literal := ?_ }
  · intro keyword s hkeyword afterWord next _
    have hword := isKeyword_of_staysInside (staysInside_of_mem hkeyword)
    exact passes_of_isPlain (fun c hc => isPlain_of_isWord (Spelling.isWord hword s hc)) afterWord
      next
  · intro c hc afterWord next
    apply passes_of_no_blank
    intro d hd
    rw [List.mem_singleton.mp hd]
    exact (sign_spec hc).1
  · intro afterWord next hquiet
    have hspace : endsConditions (' ' :: next) = false := hquiet
    refine ⟨?_, trivial⟩
    exact if_neg (by simp [hspace])
  · intro w hne hw hstays next hnext
    obtain ⟨c, rest, rfl⟩ := List.exists_cons_of_ne_nil hne
    have hstarts : startsBlank (c :: rest ++ next) = false :=
      isBlank_of_isPlain (hw c List.mem_cons_self)
    exact quiet_of_opensTail hstarts (opensTail_word hw hstays hnext.1 hnext.2)
  · intro keyword s hkeyword next hnext
    have hinside := staysInside_of_mem hkeyword
    have hstarts := startsBlank_spelling (isKeyword_of_staysInside hinside) s next
    exact quiet_of_opensTail hstarts (opensTail_keyword hinside s hnext)
  · intro c hc next
    exact quiet_of_opensTail (sign_spec hc).1 (opensTail_cons (sign_spec hc).2.2 next)
  · intro q next
    change endingSearch.quiet (maskOf q.token ++ next)
    rw [maskOf_quoted]
    exact quiet_of_opensTail (by rw [List.cons_append, startsBlank]; decide)
      (opensTail_cons (by decide) _)

/-! ## The conditions of a draft -/

theorem overlooks_conjunct (c : Conjunct) : endingSearch.Overlooks c.tokens := by
  cases c with
  | comparison c => exact regular_ending.overlooks_comparison c
  | during d => exact regular_ending.overlooks_during (by decide) d
  | between b => exact regular_ending.overlooks_between (by decide) passes_maskOf_quoted b

theorem overlooks_body (c : Clause) : endingSearch.Overlooks c.bodyTokens :=
  (overlooks_conjunct c.first).append_flatMap fun entry hentry =>
    ⟨regular_ending.divides_separator entry.1, overlooks_conjunct entry.2,
      regular_ending.hushes_conjunct entry.2 (c.stays entry hentry)
        (fun _ _ => by decide) fun _ _ => by decide +kernel⟩

theorem opensTail_ending (e : Ending) {next : List Char} (hnext : startsWord next = false) :
    opensTail (textOf e.tokens ++ next) = true := by
  cases e with
  | limit word =>
    have htext : textOf (Draft.Ending.limit word).tokens = word.chars := by
      simp [Ending.tokens, Spelling.token, Token.text]
    rw [htext, opensTail, closing?_spelling (by decide) word hnext]
    rfl
  | parameters word =>
    have htext : textOf (Draft.Ending.parameters word).tokens = word.chars := by
      simp [Ending.tokens, Spelling.token, Token.text]
    rw [htext, opensTail, closing?_spelling (by decide) word hnext]
    simp
  | orderBy order by' =>
    have htext : textOf (Draft.Ending.orderBy order by').tokens ++ next =
        order.chars ++ (' ' :: (by'.chars ++ next)) := by
      simp [Ending.tokens, Spelling.token, Token.text]
    have hby : blanks? (' ' :: (by'.chars ++ next)) = some (by'.chars ++ next) :=
      blanks?_space_spelling (by decide) by' next
    have horder : ((letters? Keyword.orderWord (order.chars ++ (' ' :: (by'.chars ++ next)))).bind
        fun (_, rest) => blanks? rest).bind (closing? Keyword.byWord) = some next := by
      rw [letters?_append (Spelling.sameLetters_chars (by decide) order), Option.bind_some]
      dsimp only
      rw [hby, Option.bind_some, closing?_spelling (by decide) by' hnext]
    rw [htext, opensTail, horder]
    simp

theorem endsToken_of_startsBlank {cs : List Char} (h : startsBlank cs = true) :
    endsToken cs = true := by
  cases cs with
  | nil => rfl
  | cons c cs =>
    have hc : isBlank c = true := h
    simp [endsToken, isSymbol, hc]

theorem avoids_ending (e : Ending) (next : List Char) :
    Avoids Keyword.byWord (' ' :: (textOf e.tokens ++ next)) := by
  cases e with
  | limit word =>
    have hlimit : Avoids Keyword.byWord (' ' :: (word.chars ++ next)) :=
      avoids_space_word (by decide) (by decide) word next
    simpa [Ending.tokens, Spelling.token, Token.text] using hlimit
  | parameters word =>
    have hparameters : Avoids Keyword.byWord (' ' :: (word.chars ++ next)) :=
      avoids_space_word (by decide) (by decide) word next
    simpa [Ending.tokens, Spelling.token, Token.text] using hparameters
  | orderBy order by' =>
    have horder : Avoids Keyword.byWord
        (' ' :: (order.chars ++ (textOf [space, by'.token] ++ next))) :=
      avoids_space_word (by decide) (by decide) order _
    simpa [Ending.tokens, Spelling.token, Token.text] using horder

theorem masked_ending (e : Ending) : masked (space :: e.tokens) = textOf (space :: e.tokens) := by
  cases e <;> rfl

theorem startsWord_mask {tail : List Char} (h : tail = [] ∨ startsBlank tail = true) :
    startsWord (mask tail) = false := by
  rcases h with rfl | h
  · rfl
  · cases tail with
    | nil => simp [startsBlank] at h
    | cons c tail =>
      have hsymbol : isSymbol c = true := endsToken_of_startsBlank h
      have hmask : mask ([c] ++ tail) = [c] ++ mask tail :=
        mask_append (by simpa using isMark_of_isSymbol hsymbol) tail
      rw [List.singleton_append] at hmask
      rw [hmask]
      exact isWord_of_isSymbol hsymbol

theorem cutConditions_eq (cs : List Char) :
    cutConditions cs = (find? endingSearch.here? false (mask cs)).elim cs
      fun (before, _) => cs.take before.length := by
  rw [cutConditions]
  split
  · rename_i hread
    have hfind : find? endingSearch.here? false (mask cs) = some (_, _) := hread
    rw [hfind]
    rfl
  · rename_i hread
    have hfind : find? endingSearch.here? false (mask cs) = none := hread
    rw [hfind]
    rfl

/-- Without an ending, nothing is cut off. -/
theorem cutConditions_bodyTokens (c : Clause) :
    cutConditions (textOf c.bodyTokens) = textOf c.bodyTokens := by
  have hmask := mask_of_allStanding ((Clause.solid c).stands [] rfl)
  have hempty : mask [] = [] := rfl
  rw [List.append_nil, hempty, List.append_nil] at hmask
  have hfind : find? endingSearch.here? false (masked c.bodyTokens) = none :=
    find?_eq_none (overlooks_body c false [] ⟨rfl, rfl⟩) rfl
  rw [cutConditions_eq, hmask, hfind]
  rfl

/-- An ending is where the search stops, and the mask keeps every place. -/
theorem cutConditions_ending (c : Clause) (e : Ending) {tail : List Char}
    (htail : tail = [] ∨ startsBlank tail = true) :
    cutConditions (textOf c.bodyTokens ++ (textOf (space :: e.tokens) ++ tail)) =
      textOf c.bodyTokens := by
  have hends : endsToken tail = true := by
    rcases htail with rfl | hblank
    · rfl
    · exact endsToken_of_startsBlank hblank
  have hstands : AllStanding (space :: e.tokens) tail := ⟨rfl, (Ending.solid e).stands tail hends⟩
  have hmask : mask (textOf c.bodyTokens ++ (textOf (space :: e.tokens) ++ tail)) =
      masked c.bodyTokens ++ (' ' :: (textOf e.tokens ++ mask tail)) := by
    rw [mask_of_allStanding ((Clause.solid c).stands _ rfl), mask_of_allStanding hstands,
      masked_ending]
    rfl
  have hhere : endsConditions (' ' :: (textOf e.tokens ++ mask tail)) = true := by
    rw [endsConditions_space,
      trimLeft_eq_self (startsBlank_of_spaced ((Ending.solid e).isSpaced true) (mask tail))]
    exact opensTail_ending e (startsWord_mask htail)
  have hpasses := overlooks_body c false _ ⟨rfl, avoids_ending e (mask tail)⟩
  have hfind : find? endingSearch.here? false
      (masked c.bodyTokens ++ (' ' :: (textOf e.tokens ++ mask tail))) =
        some (masked c.bodyTokens, ()) :=
    find?_eq_some hpasses (if_pos hhere)
  rw [cutConditions_eq, hmask, hfind]
  exact List.take_left' (length_masked c.bodyTokens).symm

/-- The conditions are cut off behind their last conjunct. -/
theorem cutConditions_body (c : Clause) {tail : List Char}
    (htail : tail = [] ∨ c.ending.isSome = true ∧ startsBlank tail = true) :
    cutConditions (textOf c.bodyTokens ++ (textOf c.endTokens ++ tail)) = textOf c.bodyTokens := by
  cases hending : c.ending with
  | none =>
    have hnil : tail = [] := by simpa [hending] using htail
    have hend : c.endTokens = [] := by simp [Clause.endTokens, hending]
    rw [hend, hnil, textOf_nil, List.append_nil, List.append_nil, cutConditions_bodyTokens]
  | some e =>
    have hend : c.endTokens = space :: e.tokens := by simp [Clause.endTokens, hending]
    rw [hend, cutConditions_ending c e (htail.imp_right And.right)]

/-- The search for `WHERE` stops at once, at the blank before the word. -/
theorem find?_where (word : Spelling Keyword.whereWord) {body : List Char}
    (hbody : startsBlank body = false) :
    find? (fun afterWord here => do
      blanks? (← opening? Keyword.whereWord afterWord here)) true
        (' ' :: (word.chars ++ ' ' :: body)) = some ([' '], body) := by
  have hend : endsWord true [' '] = false := by decide
  have hwhere : letters? Keyword.whereWord (word.chars ++ ' ' :: body) =
      some (word.chars, ' ' :: body) :=
    letters?_append (Spelling.sameLetters_chars (by decide) word) _
  change find? _ true ([' '] ++ (word.chars ++ ' ' :: body)) = _
  refine find?_eq_some ⟨rfl, trivial⟩ ?_
  rw [hend, opening?, if_neg (by simp), hwhere]
  change blanks? (' ' :: body) = some body
  rw [blanks?_space, trimLeft_eq_self hbody]

/-- The clause is read as its conditions. -/
theorem whereClause?_clause (c : Clause) {tail : List Char}
    (htail : tail = [] ∨ c.ending.isSome = true ∧ startsBlank tail = true) :
    whereClause? (textOf (space :: c.word.token :: space :: c.bodyTokens ++ c.endTokens) ++ tail) =
      some (textOf c.bodyTokens) := by
  have hstarts := startsBlank_of_spaced ((Clause.solid c).isSpaced true)
    (textOf c.endTokens ++ tail)
  have htext : textOf (space :: c.word.token :: space :: c.bodyTokens ++ c.endTokens) ++ tail =
      ' ' :: (c.word.chars ++ ' ' :: (textOf c.bodyTokens ++ (textOf c.endTokens ++ tail))) := by
    simp [Spelling.token, Token.text]
  rw [htext, whereClause?, find?_where c.word hstarts, Option.map_some]
  exact congrArg some (cutConditions_body c htail)

end AdSearch.Proofs.Query.Ending
