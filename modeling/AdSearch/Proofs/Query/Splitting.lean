import AdSearch.Proofs.Query.Extraction
import AdSearch.Proofs.Text.Pieces

/-!
# Splitting a body into its comparisons

Conjunctions cut the tokens of a body into chunks, and commas outside parentheses cut a chunk into
pieces.  A piece that starts a predicate is a comparison; one that does not is a further member of
the list before it.  An emptied place leaves a blank piece, which is dropped.
-/

namespace AdSearch.Proofs.Query.Splitting

open AdSearch.Text AdSearch.Query AdSearch.Proofs.Text.Blank AdSearch.Proofs.Text.Scan
  AdSearch.Proofs.Text.Spacing AdSearch.Proofs.Text.Pieces AdSearch.Proofs.Query.Predicate
  AdSearch.Proofs.Query.Lexing AdSearch.Proofs.Query.Draft AdSearch.Proofs.Query.Layout
  AdSearch.Proofs.Query.Following AdSearch.Proofs.Query.Extraction

/-! ## Chunks -/

theorem consChunk_consChunk (xs ys : List Char) (chunks : List (List Char)) :
    consChunk xs (consChunk ys chunks) = consChunk (xs ++ ys) chunks := by
  cases chunks <;> simp [consChunk]

theorem consChunk_nil {chunks : List (List Char)} (h : chunks ≠ []) :
    consChunk [] chunks = chunks := by
  cases chunks with
  | nil => exact absurd rfl h
  | cons chunk rest => rfl

theorem chunksFrom_ne_nil (depth : Nat) (ts : List Token) : chunksFrom depth ts ≠ [] := by
  have hcons : ∀ (text : List Char) chunks, consChunk text chunks ≠ [] := by
    intro text chunks
    cases chunks <;> simp [consChunk]
  cases ts with
  | nil => simp [chunksFrom]
  | cons t ts =>
    rw [chunksFrom]
    split
    · exact hcons _ _
    · split
      · exact hcons _ _
      · split
        · simp
        · split
          · exact hcons _ _
          · exact hcons _ _

/-- A token that changes the depth of parentheses. -/
def isParenthesis (t : Token) : Bool := t == .symbol '(' || t == .symbol ')'

/-- The text of a token outside parentheses, where a comma is marked. -/
def markedText (t : Token) : List Char := if t = .symbol ',' then [commaMark] else t.text

theorem chunksFrom_cons {t : Token} (hparen : isParenthesis t = false)
    (hfree : t.isConjunction = false) (ts : List Token) :
    chunksFrom 0 (t :: ts) = consChunk (markedText t) (chunksFrom 0 ts) := by
  simp only [isParenthesis, Bool.or_eq_false_iff, beq_eq_false_iff_ne] at hparen
  rw [chunksFrom, if_neg hparen.1, if_neg hparen.2, if_neg (by simp [hfree]), markedText]
  by_cases hcomma : t = .symbol ','
  · rw [if_pos ⟨rfl, hcomma⟩, if_pos hcomma]
  · rw [if_neg (fun h => hcomma h.2), if_neg hcomma]

theorem chunksFrom_append {ts : List Token}
    (h : ∀ t ∈ ts, isParenthesis t = false ∧ t.isConjunction = false) (us : List Token) :
    chunksFrom 0 (ts ++ us) = consChunk (ts.flatMap markedText) (chunksFrom 0 us) := by
  induction ts with
  | nil => exact (consChunk_nil (chunksFrom_ne_nil 0 us)).symm
  | cons t ts ih =>
    obtain ⟨hparen, hfree⟩ := h t List.mem_cons_self
    rw [List.cons_append, chunksFrom_cons hparen hfree,
      ih fun t' ht' => h t' (List.mem_cons_of_mem t ht'), consChunk_consChunk, List.flatMap_cons]

/-- Inside parentheses nothing is cut. -/
theorem chunksFrom_append_inside {ts : List Token} (h : ∀ t ∈ ts, isParenthesis t = false)
    (depth : Nat) (us : List Token) :
    chunksFrom (depth + 1) (ts ++ us) = consChunk (textOf ts) (chunksFrom (depth + 1) us) := by
  induction ts with
  | nil => exact (consChunk_nil (chunksFrom_ne_nil _ us)).symm
  | cons t ts ih =>
    have hparen := h t List.mem_cons_self
    simp only [isParenthesis, Bool.or_eq_false_iff, beq_eq_false_iff_ne] at hparen
    rw [List.cons_append, chunksFrom, if_neg hparen.1, if_neg hparen.2, if_neg (by simp),
      if_neg (by simp), ih fun t' ht' => h t' (List.mem_cons_of_mem t ht'), consChunk_consChunk,
      textOf_cons]

theorem chunksFrom_group {ts : List Token} (h : ∀ t ∈ ts, isParenthesis t = false)
    (us : List Token) :
    chunksFrom 0 (.symbol '(' :: ts ++ .symbol ')' :: us) =
      consChunk (textOf (.symbol '(' :: ts ++ [.symbol ')'])) (chunksFrom 0 us) := by
  have hclose : chunksFrom 1 (.symbol ')' :: us) = consChunk [')'] (chunksFrom 0 us) := by
    rw [chunksFrom, if_neg (by decide), if_pos rfl]
    rfl
  rw [List.cons_append, chunksFrom, if_pos rfl, chunksFrom_append_inside h, hclose,
    consChunk_consChunk, consChunk_consChunk]
  simp [Token.text]

/-! ## The chunk of a comparison -/

theorem isConjunction_spelling {keyword : List Char} (hkeyword : isKeyword keyword = true)
    (s : Spelling keyword) :
    s.token.isConjunction = (keyword == Keyword.andWord || keyword == Keyword.orWord) := by
  rw [Spelling.token, Token.isConjunction, Spelling.upper_chars hkeyword]

theorem free_operator (o : OperatorText) :
    ∀ t ∈ o.tokens, isParenthesis t = false ∧ t.isConjunction = false := by
  have hword : ∀ {keyword} (s : Spelling keyword), isKeyword keyword = true →
      (keyword == Keyword.andWord || keyword == Keyword.orWord) = false →
      isParenthesis s.token = false ∧ s.token.isConjunction = false := by
    intro keyword s hkeyword hother
    exact ⟨rfl, (isConjunction_spelling hkeyword s).trans hother⟩
  cases o with
  | symbol op isSymbol =>
    have hall : [Operator.eq, .ne, .gt, .lt, .ge, .le].all (fun op =>
        !(Token.word op.text.toList).isConjunction) = true := by decide
    have hop := List.all_eq_true.mp hall op isSymbol
    intro t ht
    rw [List.mem_singleton.mp ht]
    exact ⟨rfl, by simpa using hop⟩
  | isIn member =>
    intro t ht
    rw [List.mem_singleton.mp ht]
    exact hword member (by decide) (by decide)
  | notIn negation member =>
    intro t ht
    simp only [OperatorText.tokens, List.mem_cons, List.not_mem_nil, or_false] at ht
    rcases ht with rfl | rfl | rfl
    · exact hword negation (by decide) (by decide)
    · exact ⟨rfl, rfl⟩
    · exact hword member (by decide) (by decide)
  | like word =>
    intro t ht
    rw [List.mem_singleton.mp ht]
    exact hword word (by decide) (by decide)

theorem isParenthesis_member (m : Member) : isParenthesis m.token = false := by
  cases m <;> rfl

theorem mem_comma_tokens {c : Comma} {t : Token} (h : t ∈ c.tokens) :
    t = space ∨ t = .symbol ',' := by
  rw [Comma.tokens, List.mem_append, List.mem_cons] at h
  rcases h with hbefore | rfl | hafter
  · exact Or.inl (eq_space_of_mem_gap hbefore)
  · exact Or.inr rfl
  · exact Or.inl (eq_space_of_mem_gap hafter)

theorem mem_members_tokens {ms : Members} {t : Token} (h : t ∈ ms.tokens) :
    (∃ m ∈ ms.all, t = m.token) ∨ t = space ∨ t = .symbol ',' := by
  rw [Members.tokens, List.mem_cons, List.mem_flatMap] at h
  rcases h with rfl | ⟨⟨comma, m⟩, hentry, ht⟩
  · exact Or.inl ⟨ms.first, by simp [Members.all], rfl⟩
  · rcases List.mem_append.mp ht with hcomma | hmember
    · exact Or.inr (mem_comma_tokens hcomma)
    · refine Or.inl ⟨m, ?_, List.mem_singleton.mp hmember⟩
      exact List.mem_cons_of_mem _ (List.mem_map_of_mem hentry)

/-- The value of a comparison as its chunk holds it. -/
def markedOperand : Operand → List Char
  | .plain ms _ _ => ms.tokens.flatMap markedText
  | .group opens closes ms => textOf (Operand.group opens closes ms).tokens

theorem chunksFrom_operand (o : Operand) (us : List Token) :
    chunksFrom 0 (o.tokens ++ us) = consChunk (markedOperand o) (chunksFrom 0 us) := by
  cases o with
  | plain ms free continues =>
    refine chunksFrom_append ?_ us
    intro t ht
    rcases mem_members_tokens ht with ⟨m, hm, rfl⟩ | rfl | rfl
    · exact ⟨isParenthesis_member m, free m hm⟩
    · exact ⟨rfl, rfl⟩
    · exact ⟨rfl, rfl⟩
  | group opens closes ms =>
    have hgap : ∀ wanted, ∀ t ∈ gap wanted, isParenthesis t = false := by
      intro wanted t ht
      rw [eq_space_of_mem_gap ht]
      rfl
    have hinside : ∀ t ∈ gap opens ++ ms.tokens ++ gap closes, isParenthesis t = false := by
      intro t ht
      rcases List.mem_append.mp ht with ht | ht
      · rcases List.mem_append.mp ht with ht | ht
        · exact hgap opens t ht
        · rcases mem_members_tokens ht with ⟨m, -, rfl⟩ | rfl | rfl
          · exact isParenthesis_member m
          · rfl
          · rfl
      · exact hgap closes t ht
    have hgroup := chunksFrom_group hinside us
    simpa [Operand.tokens, markedOperand] using hgroup

/-- The text of a comparison in front of its operand. -/
def leading (c : Comparison) : List Char :=
  c.field.chars ++ ' ' :: (textOf c.operator.tokens ++ [' '])

theorem flatMap_markedText_operator (o : OperatorText) :
    o.tokens.flatMap markedText = textOf o.tokens := by
  cases o <;> rfl

theorem flatMap_markedText_comma (c : Comma) :
    c.tokens.flatMap markedText = textOf (gap c.before) ++ commaMark :: textOf (gap c.after) := by
  obtain ⟨before, after⟩ := c
  cases before <;> cases after <;> rfl

theorem chunksFrom_comparison (c : Comparison) (us : List Token) :
    chunksFrom 0 (c.tokens ++ us) =
      consChunk (leading c ++ markedOperand c.operand) (chunksFrom 0 us) := by
  have hfree : ∀ t ∈ c.field.token :: space :: c.operator.tokens ++ [space],
      isParenthesis t = false ∧ t.isConjunction = false := by
    intro t ht
    simp only [List.cons_append, List.mem_cons, List.mem_append, List.not_mem_nil, or_false] at ht
    rcases ht with rfl | rfl | hop | rfl
    · exact ⟨rfl, c.notConjunction⟩
    · exact ⟨rfl, rfl⟩
    · exact free_operator c.operator t hop
    · exact ⟨rfl, rfl⟩
  have htokens : c.tokens ++ us =
      (c.field.token :: space :: c.operator.tokens ++ [space]) ++ (c.operand.tokens ++ us) := by
    simp [Comparison.tokens]
  have hleading : (c.field.token :: space :: c.operator.tokens ++ [space]).flatMap markedText =
      leading c := by
    have hfield : markedText c.field.token = c.field.chars := rfl
    have hspace : markedText space = [' '] := rfl
    simp [leading, hfield, hspace, flatMap_markedText_operator]
  rw [htokens, chunksFrom_append hfree, chunksFrom_operand, consChunk_consChunk, hleading]

/-! ## The pieces of a comparison -/

/-- The operand as its pieces are joined again. -/
def joinedOperand : Operand → List Char
  | .plain ms _ _ => ms.joined
  | .group opens closes ms => textOf (Operand.group opens closes ms).tokens

/-- A comparison as it is read. -/
def line (c : Comparison) : List Char := leading c ++ joinedOperand c.operand

/-- The members that follow the first one without parentheses. -/
def laterMembers : Operand → List (List Char)
  | .plain ms _ _ => ms.rest.map fun entry => entry.2.text
  | .group _ _ _ => []

/-- The text of an operand up to the first comma outside parentheses. -/
def firstPart : Operand → List Char
  | .plain ms _ _ => ms.first.text
  | .group opens closes ms => textOf (Operand.group opens closes ms).tokens

theorem joinedOperand_eq (o : Operand) :
    joinedOperand o = firstPart o ++ (laterMembers o).flatMap fun m => ',' :: ' ' :: m := by
  cases o with
  | plain ms _ _ => simp [joinedOperand, Members.joined, firstPart, laterMembers, List.flatMap_map]
  | group opens closes ms => simp [joinedOperand, firstPart, laterMembers]

theorem spaced_member (m : Member) : spaced true m.text = some false := by
  have hsolid := (Member.solid m).isSpaced true
  simpa [Member.text] using hsolid

theorem not_mem_member (m : Member) : commaMark ∉ m.text := by
  cases m with
  | bare b => exact b.noSplit
  | quoted l =>
    have hmark : l.mark ≠ commaMark := by
      rcases eq_of_isMark l.isMark with h | h <;> rw [h] <;> decide
    have htext : (Member.quoted l).text = l.mark :: (l.inner ++ [l.mark]) := by
      simp [Member.text, Member.token, Quoted.token, Quoted.text, Token.text, Piece.text]
    simp [htext, l.noSplit, Ne.symm hmark]

theorem not_mem_word {w : List Char} (hw : ∀ c ∈ w, isWord c = true) : commaMark ∉ w := by
  intro h
  exact absurd (hw _ h) (by decide)

theorem not_mem_leading (c : Comparison) : commaMark ∉ leading c := by
  have hfield : commaMark ∉ c.field.chars := by
    intro h
    have hpath := c.field.isPath.1 _ h
    exact absurd hpath (by decide)
  have hword : ∀ {keyword} (s : Spelling keyword), isKeyword keyword = true →
      commaMark ∉ s.chars := fun s hkeyword => not_mem_word fun _ => Spelling.isWord hkeyword s
  have hop : commaMark ∉ textOf c.operator.tokens := by
    cases c.operator with
    | symbol op isSymbol =>
      have hall : [Operator.eq, .ne, .gt, .lt, .ge, .le].all (fun op =>
          !op.text.toList.contains commaMark) = true := by decide
      have hnot := List.all_eq_true.mp hall op isSymbol
      simpa [OperatorText.tokens, Token.text] using hnot
    | isIn member =>
      simpa [OperatorText.tokens, Spelling.token, Token.text] using hword member (by decide)
    | notIn negation member =>
      have hnegation := hword negation (by decide)
      have hmember := hword member (by decide)
      have hspace : commaMark ≠ ' ' := by decide
      simp [OperatorText.tokens, Spelling.token, Token.text, hnegation, hmember, hspace]
    | like word =>
      simpa [OperatorText.tokens, Spelling.token, Token.text] using hword word (by decide)
  have hspace : commaMark ≠ ' ' := by decide
  simp [leading, hfield, hop, hspace]

theorem not_mem_group (opens closes : Bool) (ms : Members) :
    commaMark ∉ textOf (Operand.group opens closes ms).tokens := by
  have hgap : ∀ wanted, commaMark ∉ textOf (gap wanted) := by
    intro wanted
    cases wanted <;> decide
  have hmembers : commaMark ∉ textOf ms.tokens := by
    intro h
    obtain ⟨t, ht, hmem⟩ := List.mem_flatMap.mp h
    rcases mem_members_tokens ht with ⟨m, -, rfl⟩ | rfl | rfl
    · exact not_mem_member m hmem
    · exact absurd hmem (by decide)
    · exact absurd hmem (by decide)
  have hopen : commaMark ≠ '(' := by decide
  have hclose : commaMark ≠ ')' := by decide
  simp [Operand.tokens, Token.text, hgap, hmembers, hopen, hclose]

theorem isBlank_commaMark : isBlank commaMark = false := by decide

/-- The members after the first one are added as pieces of their own. -/
theorem adds_members (rest : List (Comma × Member)) {next : List Char}
    {added : List (List Char)} (h : Adds commaMark next added) :
    Adds commaMark
      ((rest.flatMap fun (comma, m) => comma.tokens ++ [m.token]).flatMap markedText ++ next)
      (rest.map (fun entry => entry.2.text) ++ added) := by
  induction rest with
  | nil => exact h
  | cons entry rest ih =>
    obtain ⟨comma, m⟩ := entry
    have hpieces := pieces_of_adds (Or.inr (spaced_member m)) (not_mem_member m)
      (isBlank_of_mem_gap comma.after) isBlank_commaMark ih
    have hadds := adds_mark (isBlank_of_mem_gap comma.before) isBlank_commaMark
      (textOf (gap comma.after) ++ (m.text ++
        ((rest.flatMap fun (comma, m) => comma.tokens ++ [m.token]).flatMap markedText ++ next)))
    rw [hpieces] at hadds
    have hmember : markedText m.token = m.text := by cases m <;> rfl
    simpa [flatMap_markedText_comma, hmember] using hadds

theorem spaced_leading_append (c : Comparison) {w : List Char} (h : spaced true w = some false) :
    spaced true (leading c ++ w) = some false := by
  have hfield := Path.isSpaced c.field
  have hop := (OperatorText.solid c.operator).isSpaced true
  have htext : leading c ++ w = c.field.chars ++ ([' '] ++ (textOf c.operator.tokens ++
      ([' '] ++ w))) := by
    simp [leading]
  have hspace : spaced false [' '] = some true := rfl
  simp only [htext, spaced_append, hfield, hop, hspace, h, Option.bind_some]

/-- The pieces of a comparison: its line up to the first comma, and the later members. -/
def piecesOf (c : Comparison) : List (List Char) :=
  (leading c ++ firstPart c.operand) :: laterMembers c.operand

theorem pieces_comparison (c : Comparison) {before next : List Char} {added : List (List Char)}
    (hbefore : ∀ c ∈ before, isBlank c = true) (h : Adds commaMark next added) :
    (splitOn commaMark (before ++ (leading c ++ markedOperand c.operand ++ next))).map trim =
      piecesOf c ++ added := by
  cases hoperand : c.operand with
  | plain ms free continues =>
    have hmark : commaMark ∉ leading c ++ ms.first.text := by
      simp [not_mem_leading, not_mem_member]
    have hpieces := pieces_of_adds (Or.inr (spaced_leading_append c (spaced_member ms.first))) hmark
      hbefore isBlank_commaMark (adds_members ms.rest h)
    have hfirst : markedText ms.first.token = ms.first.text := by cases ms.first <;> rfl
    simpa [piecesOf, hoperand, firstPart, laterMembers, markedOperand, Members.tokens, hfirst]
      using hpieces
  | group opens closes ms =>
    have hspaced : spaced true (textOf (Operand.group opens closes ms).tokens) = some false :=
      (Operand.solid (.group opens closes ms)).isSpaced true
    have hmark : commaMark ∉ leading c ++ textOf (Operand.group opens closes ms).tokens := by
      simp only [List.mem_append, not_or]
      exact ⟨not_mem_leading c, not_mem_group opens closes ms⟩
    have hpieces := pieces_of_adds (Or.inr (spaced_leading_append c hspaced)) hmark hbefore
      isBlank_commaMark h
    simpa [piecesOf, hoperand, firstPart, laterMembers, markedOperand] using hpieces

/-! ## Joining the pieces again -/

theorem symbolOperators_text {op : Operator} (h : op ∈ [.eq, .ne, .gt, .lt, .ge, .le])
    (next : List Char) :
    ∃ others, symbolOperators (op.text.toList ++ ' ' :: next) = (op, ' ' :: next) :: others := by
  simp only [List.mem_cons, List.not_mem_nil, or_false] at h
  rcases h with rfl | rfl | rfl | rfl | rfl | rfl
  · exact ⟨[], rfl⟩
  · exact ⟨[], rfl⟩
  · exact ⟨[], rfl⟩
  · exact ⟨[], rfl⟩
  · exact ⟨[(.gt, '=' :: ' ' :: next)], rfl⟩
  · exact ⟨[(.lt, '=' :: ' ' :: next)], rfl⟩

/-- A drafted operator is a symbol, or a word operator that is spelled as its text. -/
theorem symbol_or_word (o : OperatorText) :
    (∃ op isSymbol, o = .symbol op isSymbol) ∨
      ∃ spelled, OperatorWord (textOf o.tokens) spelled ∧
        upper spelled = o.operator.text.toList := by
  cases o with
  | symbol op isSymbol => exact Or.inl ⟨op, isSymbol, rfl⟩
  | isIn member =>
    have hword := OperatorWord.isIn (Spelling.sameLetters_chars (by decide) member)
    have hupper : upper member.chars = Keyword.inWord := Spelling.upper_chars (by decide) member
    have htext : Operator.isIn.text.toList = Keyword.inWord := by decide
    refine Or.inr ⟨member.chars, ?_, hupper.trans htext.symm⟩
    simpa [OperatorText.tokens, Spelling.token, Token.text] using hword
  | like word =>
    have hword := OperatorWord.like (Spelling.sameLetters_chars (by decide) word)
    have hupper : upper word.chars = Keyword.likeWord := Spelling.upper_chars (by decide) word
    have htext : Operator.like.text.toList = Keyword.likeWord := by decide
    refine Or.inr ⟨word.chars, ?_, hupper.trans htext.symm⟩
    simpa [OperatorText.tokens, Spelling.token, Token.text] using hword
  | notIn negation member =>
    have hword := OperatorWord.notIn (Spelling.sameLetters_chars (by decide) negation) blanks_space
      (Spelling.sameLetters_chars (by decide) member)
    have hnot : upper negation.chars = Keyword.notWord := Spelling.upper_chars (by decide) negation
    have hin : upper member.chars = Keyword.inWord := Spelling.upper_chars (by decide) member
    refine Or.inr ⟨negation.chars ++ ' ' :: member.chars, ?_, ?_⟩
    · simpa [OperatorText.tokens, Spelling.token, Token.text] using hword
    · rw [upper, List.flatMap_append, List.flatMap_cons]
      change upper negation.chars ++ (upperLetters ' ' ++ upper member.chars) = _
      rw [hnot, hin]
      exact (by decide : Keyword.notWord ++ (upperLetters ' ' ++ Keyword.inWord) =
        Operator.notIn.text.toList)

theorem startsPath_space (next : List Char) : startsPath (' ' :: next) = false := by
  rw [startsPath]
  decide

theorem startsWord_space (next : List Char) : startsWord (' ' :: next) = false := by
  rw [startsWord]
  decide

theorem trimLeft_operator (o : OperatorText) (next : List Char) :
    trimLeft (' ' :: (textOf o.tokens ++ next)) = textOf o.tokens ++ next := by
  have hstarts := startsBlank_of_spaced ((OperatorText.solid o).isSpaced true) next
  exact trimLeft_space hstarts

theorem startsPredicate_leading (c : Comparison) (next : List Char) :
    startsPredicate (leading c ++ next) = true := by
  have htext : leading c ++ next =
      c.field.chars ++ ' ' :: (textOf c.operator.tokens ++ ' ' :: next) := by
    simp [leading]
  rw [htext, startsPredicate, fieldPath?_append c.field.isPath (startsPath_space _)]
  dsimp only
  rw [trimLeft_operator]
  rcases symbol_or_word c.operator with ⟨op, isSymbol, hop⟩ | ⟨spelled, hword, -⟩
  · obtain ⟨others, hsymbols⟩ := symbolOperators_text isSymbol next
    have htokens : textOf (OperatorText.symbol op isSymbol).tokens = op.text.toList := by
      simp [OperatorText.tokens, Token.text]
    rw [hop, htokens, hsymbols]
    simp
  · have hread := wordOperator?_append blanks_space hword (startsWord_space next)
    rw [List.singleton_append] at hread
    rw [hread]
    rfl

theorem gluePieces_members {members : List (List Char)}
    (h : ∀ m ∈ members, startsPredicate m = false ∧ m ≠ []) (pieces : List (List Char)) :
    gluePieces (members ++ pieces) =
      ((members.flatMap fun m => ',' :: ' ' :: m) ++ (gluePieces pieces).1,
        (gluePieces pieces).2) := by
  induction members with
  | nil => rfl
  | cons m members ih =>
    obtain ⟨hstarts, hne⟩ := h m List.mem_cons_self
    have hempty : ¬m.isEmpty = true := by simpa using hne
    rw [List.cons_append, gluePieces, ih fun m' hm' => h m' (List.mem_cons_of_mem m hm')]
    dsimp only
    rw [if_neg (by simp [hstarts]), if_neg hempty]
    simp

theorem laterMembers_spec (c : Comparison) :
    ∀ m ∈ laterMembers c.operand, startsPredicate m = false ∧ m ≠ [] := by
  intro m hm
  cases hoperand : c.operand with
  | group opens closes ms => rw [hoperand] at hm; cases hm
  | plain ms free continues =>
    rw [hoperand] at hm
    obtain ⟨entry, hentry, rfl⟩ := List.mem_map.mp hm
    refine ⟨continues entry hentry, ?_⟩
    intro hnil
    have hspaced := spaced_member entry.2
    rw [hnil] at hspaced
    cases hspaced

/-- The pieces of a place: those of its comparison, or a blank one. -/
def placePieces (place : Option Conjunct) : List (List Char) :=
  (place.bind Conjunct.comparison?).elim [[]] piecesOf

/-- The lines of the comparisons among places. -/
def linesOf (places : List (Option Conjunct)) : List (List Char) :=
  (places.filterMap fun place => place.bind Conjunct.comparison?).map line

theorem gluePieces_comparison (c : Comparison) (pieces : List (List Char)) :
    gluePieces (piecesOf c ++ pieces) =
      ([], (line c ++ (gluePieces pieces).1) :: (gluePieces pieces).2) := by
  have hline : leading c ++ firstPart c.operand ++
      ((laterMembers c.operand).flatMap fun m => ',' :: ' ' :: m) = line c := by
    rw [line, joinedOperand_eq, List.append_assoc]
  rw [piecesOf, List.cons_append, gluePieces, gluePieces_members (laterMembers_spec c)]
  dsimp only
  rw [if_pos (startsPredicate_leading c _), ← List.append_assoc, hline]

theorem gluePieces_places (places : List (Option Conjunct)) :
    gluePieces (places.flatMap placePieces) = ([], linesOf places) := by
  induction places with
  | nil => rfl
  | cons place places ih =>
    rw [List.flatMap_cons, placePieces, linesOf, List.filterMap_cons]
    cases place.bind Conjunct.comparison? with
    | none =>
      have hstarts : startsPredicate [] = false := rfl
      change gluePieces ([] :: places.flatMap placePieces) = _
      rw [gluePieces, ih]
      dsimp only
      rw [if_neg (by simp [hstarts])]
      rfl
    | some c =>
      change gluePieces (piecesOf c ++ places.flatMap placePieces) = _
      rw [gluePieces_comparison, ih, List.append_nil]
      rfl

/-- The pieces of places are joined to the lines of their comparisons. -/
theorem mergePieces_places (places : List (Option Conjunct)) :
    mergePieces (places.flatMap placePieces) = linesOf places := by
  induction places with
  | nil => rfl
  | cons place places ih =>
    rw [List.flatMap_cons, placePieces, linesOf, List.filterMap_cons]
    cases place.bind Conjunct.comparison? with
    | none => exact ih
    | some c =>
      -- the first piece starts a line as it does for `gluePieces`, so both join the same pieces
      have hglue := gluePieces_comparison c (places.flatMap placePieces)
      have hempty : ¬(leading c ++ firstPart c.operand).isEmpty = true := by simp [leading]
      rw [gluePieces_places, List.append_nil] at hglue
      change mergePieces (piecesOf c ++ places.flatMap placePieces) = _
      rw [piecesOf, List.cons_append] at hglue ⊢
      rw [gluePieces] at hglue
      dsimp only at hglue
      rw [if_pos (startsPredicate_leading c _)] at hglue
      rw [mergePieces, if_neg hempty]
      exact (Prod.mk.inj hglue).2

/-! ## Places -/

/-- A place that is empty or holds a comparison. -/
def Plain (place : Option Conjunct) : Prop := place = none ∨ ∃ c, place = some (.comparison c)

/-- The text of a place in its chunk. -/
def placeText (place : Option Conjunct) : List Char :=
  (place.bind Conjunct.comparison?).elim [] fun c => leading c ++ markedOperand c.operand

theorem chunksFrom_place {place : Option Conjunct} (h : Plain place) (us : List Token) :
    chunksFrom 0 (placeTokens place ++ us) = consChunk (placeText place) (chunksFrom 0 us) := by
  rcases h with rfl | ⟨c, rfl⟩
  · exact (consChunk_nil (chunksFrom_ne_nil 0 us)).symm
  · exact chunksFrom_comparison c us

theorem pieces_place {place : Option Conjunct} (h : Plain place) {before next : List Char}
    {added : List (List Char)} (hbefore : ∀ c ∈ before, isBlank c = true)
    (hnext : Adds commaMark next added) :
    (splitOn commaMark (before ++ (placeText place ++ next))).map trim =
      placePieces place ++ added := by
  rcases h with rfl | ⟨c, rfl⟩
  · exact pieces_of_adds (Or.inl rfl) (List.not_mem_nil) hbefore isBlank_commaMark hnext
  · exact pieces_comparison c hbefore hnext

/-- The predicates of chunks. -/
def predicatesOf (chunks : List (List Char)) : List (List Char) :=
  chunks.flatMap fun chunk => mergePieces ((splitOn commaMark chunk).map trim)

/-- What follows a place adds the pieces of some places to its chunk, and the lines of the others
come after them. -/
def Continues (chunks : List (List Char)) (places : List (Option Conjunct)) : Prop :=
  ∃ chunk others near, chunks = chunk :: others ∧ Adds commaMark chunk (near.flatMap placePieces) ∧
    linesOf near ++ predicatesOf others = linesOf places

theorem linesOf_cons (place : Option Conjunct) (places : List (Option Conjunct)) :
    linesOf (place :: places) = linesOf [place] ++ linesOf places := by
  simp only [linesOf, ← List.map_append, ← List.filterMap_append]
  rfl

/-- A place in front of what follows makes a whole chunk. -/
theorem predicatesOf_place {place : Option Conjunct} (h : Plain place) {before : List Char}
    (hbefore : ∀ c ∈ before, isBlank c = true) {chunks : List (List Char)}
    {places : List (Option Conjunct)} (hcontinues : Continues chunks places) :
    predicatesOf (consChunk before (consChunk (placeText place) chunks)) =
      linesOf (place :: places) := by
  obtain ⟨chunk, others, near, rfl, hadds, hlines⟩ := hcontinues
  have hpieces := pieces_place h hbefore hadds
  rw [consChunk, consChunk, predicatesOf, List.flatMap_cons, hpieces, ← List.flatMap_cons,
    mergePieces_places, linesOf_cons, List.append_assoc]
  change linesOf [place] ++ (linesOf near ++ predicatesOf others) = _
  rw [hlines, ← linesOf_cons]

theorem continues_conjunction {keyword : List Char} (hkeyword : isKeyword keyword = true)
    (hjoins : (keyword == Keyword.andWord || keyword == Keyword.orWord) = true)
    (s : Spelling keyword) {place : Option Conjunct} (h : Plain place) {ts : List Token}
    {places : List (Option Conjunct)} (hcontinues : Continues (chunksFrom 0 ts) places) :
    Continues (chunksFrom 0 ([space, s.token, space] ++ (placeTokens place ++ ts)))
      (place :: places) := by
  have hspace : ∀ us, chunksFrom 0 (space :: us) = consChunk [' '] (chunksFrom 0 us) := fun us =>
    chunksFrom_cons rfl rfl us
  have hconjunction : s.token.isConjunction = true :=
    (isConjunction_spelling hkeyword s).trans hjoins
  have hcut : ∀ us, chunksFrom 0 (s.token :: us) = [] :: chunksFrom 0 us := by
    intro us
    rw [chunksFrom, if_neg (by simp [Spelling.token]), if_neg (by simp [Spelling.token]),
      if_pos ⟨rfl, hconjunction⟩]
  have hchunks : chunksFrom 0 ([space, s.token, space] ++ (placeTokens place ++ ts)) =
      [' '] :: consChunk [' '] (consChunk (placeText place) (chunksFrom 0 ts)) := by
    change chunksFrom 0 (space :: s.token :: space :: (placeTokens place ++ ts)) = _
    rw [hspace, hcut, hspace, chunksFrom_place h]
    rfl
  refine ⟨_, _, [], hchunks, ?_, ?_⟩
  · exact ⟨[' '], [], rfl, blanks_space.2, rfl⟩
  · rw [predicatesOf_place h blanks_space.2 hcontinues]
    rfl

theorem continues_comma (c : Comma) {place : Option Conjunct} (h : Plain place) {ts : List Token}
    {places : List (Option Conjunct)} (hcontinues : Continues (chunksFrom 0 ts) places) :
    Continues (chunksFrom 0 (c.tokens ++ (placeTokens place ++ ts))) (place :: places) := by
  obtain ⟨chunk, others, near, hchunk, hadds, hlines⟩ := hcontinues
  have hfree : ∀ t ∈ c.tokens, isParenthesis t = false ∧ t.isConjunction = false := by
    intro t ht
    rcases mem_comma_tokens ht with rfl | rfl
    · exact ⟨rfl, rfl⟩
    · exact ⟨rfl, rfl⟩
  have hpieces := pieces_place h (isBlank_of_mem_gap c.after) hadds
  refine ⟨textOf (gap c.before) ++
    commaMark :: (textOf (gap c.after) ++ (placeText place ++ chunk)), others, place :: near,
    ?_, ?_, ?_⟩
  · rw [chunksFrom_append hfree, chunksFrom_place h, hchunk, flatMap_markedText_comma]
    simp [consChunk]
  · rw [List.flatMap_cons, ← hpieces]
    exact adds_mark (isBlank_of_mem_gap c.before) isBlank_commaMark _
  · rw [linesOf_cons, List.append_assoc, hlines, ← linesOf_cons]

theorem continues_rest {rest : List (Separator × Option Conjunct)}
    (h : ∀ entry ∈ rest, Plain entry.2) :
    Continues (chunksFrom 0 (Body.restTokens rest)) (rest.map (·.2)) := by
  induction rest with
  | nil => exact ⟨[], [], [], rfl, adds_nil, rfl⟩
  | cons entry rest ih =>
    obtain ⟨separator, place⟩ := entry
    have hplace : Plain place := h (separator, place) List.mem_cons_self
    have hrest := ih fun entry hentry => h entry (List.mem_cons_of_mem _ hentry)
    have htokens : Body.restTokens ((separator, place) :: rest) =
        separator.tokens ++ (placeTokens place ++ Body.restTokens rest) := by
      simp [Body.restTokens]
    rw [htokens, List.map_cons]
    cases separator with
    | and word => exact continues_conjunction (by decide) (by decide) word hplace hrest
    | or word => exact continues_conjunction (by decide) (by decide) word hplace hrest
    | comma c => exact continues_comma c hplace hrest

/-! ## The body -/

theorem allStanding_place (place : Option Conjunct) {next : List Char}
    (hnext : endsToken next = true) : AllStanding (placeTokens place) next := by
  cases place with
  | none => trivial
  | some c => exact (Conjunct.solid c).stands next hnext

theorem allStanding_rest (rest : List (Separator × Option Conjunct)) :
    AllStanding (Body.restTokens rest) [] := by
  induction rest with
  | nil => trivial
  | cons entry rest ih =>
    have hplace := allStanding_place entry.2 (endsToken_rest rest)
    rw [Body.restTokens, List.flatMap_cons, allStanding_append, allStanding_append]
    refine ⟨⟨(Separator.separates entry.1).stands _, ?_⟩, ih⟩
    rwa [List.append_nil]

/-- A body is split into the lines of its comparisons. -/
theorem splitPredicates_body {b : Body} (h : ∀ place ∈ b.places, Plain place) :
    splitPredicates (textOf b.tokens) = (b.kinds Conjunct.comparison?).map line := by
  have hstands : AllStanding b.tokens [] := by
    rw [Body.tokens, allStanding_append, List.append_nil]
    exact ⟨allStanding_place b.first (endsToken_rest b.rest), allStanding_rest b.rest⟩
  have htokens := tokens_of_allStanding hstands
  have hempty : tokens [] = [] := rfl
  rw [List.append_nil, hempty, List.append_nil] at htokens
  have hrest : ∀ entry ∈ b.rest, Plain entry.2 := fun entry hentry =>
    h _ (List.mem_cons_of_mem _ (List.mem_map_of_mem hentry))
  have hpredicates := predicatesOf_place (h b.first List.mem_cons_self)
    (List.forall_mem_nil _) (continues_rest hrest)
  rw [consChunk_consChunk, List.nil_append, ← chunksFrom_place (h b.first List.mem_cons_self)]
    at hpredicates
  rw [splitPredicates, htokens]
  exact hpredicates

end AdSearch.Proofs.Query.Splitting
