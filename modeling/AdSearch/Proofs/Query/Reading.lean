import AdSearch.Proofs.Query.Splitting

/-!
# Reading a comparison

The line of a comparison is read as its condition: the field up to the first blank, the operator,
and all the rest as the value, which loses the marks of a single literal outside lists.
-/

namespace AdSearch.Proofs.Query.Reading

open AdSearch.Text AdSearch.Query AdSearch.Proofs.Text.Blank AdSearch.Proofs.Text.Scan
  AdSearch.Proofs.Text.Spacing AdSearch.Proofs.Text.Pieces AdSearch.Proofs.Query.Predicate
  AdSearch.Proofs.Query.Lexing AdSearch.Proofs.Query.Draft AdSearch.Proofs.Query.Layout
  AdSearch.Proofs.Query.Overlooking AdSearch.Proofs.Query.Splitting

/-! ## Values -/

theorem eq_space_of_spaced {w : List Char} {afterBlank flag : Bool}
    (h : spaced afterBlank w = some flag) {c : Char} (hc : c ∈ w) (hblank : isBlank c = true) :
    c = ' ' := by
  induction w generalizing afterBlank with
  | nil => cases hc
  | cons d w ih =>
    rw [spaced] at h
    split at h
    · split at h
      · rename_i hspace
        rcases List.mem_cons.mp hc with rfl | hc
        · simp only [Bool.and_eq_true, beq_iff_eq] at hspace
          exact hspace.1
        · exact ih h hc
      · cases h
    · rename_i hd
      rcases List.mem_cons.mp hc with rfl | hc
      · exact absurd hblank hd
      · exact ih h hc

/-- A spaced text is one line, and is a value as it is. -/
theorem value?_spaced {w : List Char} (h : spaced true w = some false) :
    value? (' ' :: w) = some w := by
  have hstarts := startsBlank_of_spaced h []
  rw [List.append_nil] at hstarts
  have htrim : trimLeft (' ' :: w) = w := trimLeft_space hstarts
  have hline : '\n' ∉ w := fun hmem =>
    absurd (eq_space_of_spaced h hmem (by decide)) (by decide)
  have hempty : w.isEmpty = false := by
    cases w with
    | nil => cases h
    | cons c w => rfl
  rw [value?, htrim, if_neg (by simp [hline, hempty]), trimRight_of_spaced h]

theorem spaced_laterMembers (rest : List (Comma × Member)) :
    spaced false (rest.flatMap fun (_, m) => ',' :: ' ' :: m.text) = some false := by
  induction rest with
  | nil => rfl
  | cons entry rest ih =>
    obtain ⟨comma, m⟩ := entry
    have hcomma : spaced false [',', ' '] = some true := rfl
    rw [List.flatMap_cons]
    change spaced false (([',', ' '] ++ m.text) ++ _) = some false
    simp only [spaced_append, hcomma, spaced_member, Option.bind_some, ih]

theorem spaced_joinedOperand (o : Operand) : spaced true (joinedOperand o) = some false := by
  cases o with
  | group opens closes ms => exact (Operand.solid (.group opens closes ms)).isSpaced true
  | plain ms free continues =>
    simp only [joinedOperand, Members.joined, spaced_append, spaced_member, Option.bind_some,
      spaced_laterMembers]

theorem unquote_cons {c : Char} (h : isMark c = false) (cs : List Char) :
    unquote (c :: cs) = c :: cs := by
  simp [unquote, h]

theorem unquote_literal {mark : Char} (hmark : isMark mark = true) (inner : List Char) :
    unquote (Piece.literal mark inner).text = inner := by
  have htext : (Piece.literal mark inner).text = mark :: (inner ++ [mark]) := rfl
  have hcloses : (isMark mark && !(inner ++ [mark]).isEmpty &&
      (inner ++ [mark]).getLast? == some mark) = true := by simp [hmark]
  rw [htext, unquote, if_pos hcloses, List.dropLast_concat]

theorem unquote_quoted (q : Quoted) : unquote q.text = q.inner := unquote_literal q.isMark q.inner

theorem joinedOperand_eq_value (o : Operand) : joinedOperand o = o.value true := by
  cases o with
  | group opens closes ms => rfl
  | plain ms free continues =>
    obtain ⟨first, rest⟩ := ms
    cases first with
    | bare b => cases rest <;> rfl
    | quoted l =>
      cases rest with
      | nil => exact List.append_nil l.text
      | cons entry rest => rfl

/-- Outside lists an operand loses the marks of its literal. -/
theorem unquote_joinedOperand (o : Operand) (h : o.isOpenList = false) :
    unquote (joinedOperand o) = o.value false := by
  cases o with
  | group opens closes ms => exact unquote_cons (by decide) _
  | plain ms free continues =>
    obtain ⟨first, rest⟩ := ms
    cases rest with
    | cons entry rest => cases h
    | nil =>
      cases first with
      | quoted l =>
        have htext : joinedOperand (.plain ⟨.quoted l, []⟩ free continues) = l.text :=
          List.append_nil l.text
        rw [htext]
        exact unquote_quoted l.toQuoted
      | bare b =>
        have htext : joinedOperand (.plain ⟨.bare b, []⟩ free continues) = b.chars :=
          List.append_nil b.chars
        have hvalue : (Operand.plain ⟨.bare b, []⟩ free continues).value false = b.chars :=
          List.append_nil b.chars
        obtain ⟨d, rest, hchars⟩ := List.exists_cons_of_ne_nil b.ne_nil
        have hmark := isMark_of_isPlain (b.isPlain d (by rw [hchars]; exact List.mem_cons_self))
        rw [htext, hvalue, hchars, unquote_cons hmark]

theorem value_eq (c : Comparison) :
    (if c.operator.operator.takesList then joinedOperand c.operand
      else unquote (joinedOperand c.operand)) =
      c.operand.value c.operator.operator.takesList := by
  have hlisted := c.listed
  cases hlist : c.operator.operator.takesList with
  | true => exact joinedOperand_eq_value c.operand
  | false =>
    have hclosed : c.operand.isOpenList = false := by simpa [hlist] using hlisted
    exact unquote_joinedOperand c.operand hclosed

theorem ofParts_comparison (c : Comparison) :
    Predicate.ofParts c.field.chars c.operator.operator (joinedOperand c.operand) =
      .condition c.condition := by
  have hempty : ¬(c.operand.value c.operator.operator.takesList).isEmpty = true := by
    simpa using c.value_ne_nil
  rw [Predicate.ofParts, value_eq, if_neg hempty, if_neg (by simp [c.notDate])]
  rfl

/-! ## Operators -/

theorem ofText?_text (op : Operator) : Operator.ofText? op.text = some op := by
  cases op <;> decide

theorem wordOperator?_sign {c : Char} (hc : c ∈ signs) (cs : List Char) :
    wordOperator? (' ' :: c :: cs) = none := by
  have hall : signs.all (fun c => !isBlank c && !sameLetter 'N' c && !sameLetter 'I' c &&
      !sameLetter 'L' c) = true := by decide
  have hsign := List.all_eq_true.mp hall c hc
  simp only [Bool.and_eq_true, Bool.not_eq_true'] at hsign
  obtain ⟨⟨⟨hblank, hnot⟩, hin⟩, hlike⟩ := hsign
  have hstarts : startsBlank (c :: cs) = false := hblank
  have hblanks : blanks? (' ' :: c :: cs) = some (c :: cs) := by
    change some (trimLeft (c :: cs)) = _
    rw [trimLeft_eq_self hstarts]
  rw [wordOperator?, hblanks]
  simp only [Option.bind_eq_bind, Option.bind_some, notIn?, wholeWord?, Keyword.notWord,
    Keyword.inWord, Keyword.likeWord, letters?_cons_of_ne hnot, letters?_cons_of_ne hin,
    letters?_cons_of_ne hlike]
  rfl

theorem symbolPredicate?_comparison {c : Comparison} {op : Operator}
    {isSymbol : op ∈ [.eq, .ne, .gt, .lt, .ge, .le]} (hop : c.operator = .symbol op isSymbol) :
    wordPredicate? c.field.chars
        (' ' :: (textOf c.operator.tokens ++ ' ' :: joinedOperand c.operand)) = none ∧
      symbolPredicate? c.field.chars
        (' ' :: (textOf c.operator.tokens ++ ' ' :: joinedOperand c.operand)) =
          some (.condition c.condition) := by
  have htokens : textOf c.operator.tokens = op.text.toList := by
    rw [hop]
    simp [OperatorText.tokens, Token.text]
  constructor
  · obtain ⟨d, hd, rest, hchars⟩ := exists_sign_of_text isSymbol
    rw [htokens, hchars, wordPredicate?, List.cons_append, wordOperator?_sign hd]
    rfl
  · obtain ⟨others, hsymbols⟩ := symbolOperators_text isSymbol (joinedOperand c.operand)
    have hread := ofParts_comparison c
    have hoperator : c.operator.operator = op := by rw [hop]; rfl
    rw [hoperator] at hread
    rw [symbolPredicate?, trimLeft_operator, htokens, hsymbols, List.findSome?_cons]
    dsimp only
    rw [value?_spaced (spaced_joinedOperand c.operand), Option.map_some, hread]

theorem wordPredicate?_comparison {c : Comparison} {spelled : List Char}
    (hword : OperatorWord (textOf c.operator.tokens) spelled)
    (hupper : upper spelled = c.operator.operator.text.toList) :
    wordPredicate? c.field.chars
      (' ' :: (textOf c.operator.tokens ++ ' ' :: joinedOperand c.operand)) =
        some (.condition c.condition) := by
  have hread := wordOperator?_append blanks_space hword (startsWord_space (joinedOperand c.operand))
  rw [List.singleton_append] at hread
  have htext : String.ofList (upper spelled) = c.operator.operator.text := by
    rw [hupper, String.ofList_toList]
  simp only [wordPredicate?, hread, Option.bind_eq_bind, Option.bind_some,
    value?_spaced (spaced_joinedOperand c.operand), htext, ofText?_text, ofParts_comparison]

/-- The line of a comparison is read as its condition. -/
theorem read_line (c : Comparison) : Predicate.read (line c) = .condition c.condition := by
  have htext : line c =
      c.field.chars ++ ' ' :: (textOf c.operator.tokens ++ ' ' :: joinedOperand c.operand) := by
    simp [line, leading]
  rw [htext, Predicate.read, fieldPath?_append c.field.isPath (startsPath_space _),
    Option.bind_some]
  dsimp only
  rcases symbol_or_word c.operator with ⟨op, isSymbol, hop⟩ | ⟨spelled, hword, hupper⟩
  · obtain ⟨hnone, hsome⟩ := symbolPredicate?_comparison hop
    rw [hnone, hsome]
    rfl
  · rw [wordPredicate?_comparison hword hupper]
    rfl

end AdSearch.Proofs.Query.Reading
