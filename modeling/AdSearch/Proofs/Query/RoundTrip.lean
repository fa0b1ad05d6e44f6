import AdSearch.Proofs.Query.Ending
import AdSearch.Proofs.Query.Heading
import AdSearch.Proofs.Query.Reading
import AdSearch.Proofs.Query.Tolerance

/-!
# Reading undoes printing

However a draft is printed, its text is read as the query that it means, without a warning.
-/

namespace AdSearch.Proofs.Query.RoundTrip

open AdSearch.Text AdSearch.Query AdSearch.Log AdSearch.Proofs.Text.Blank
  AdSearch.Proofs.Text.Scan AdSearch.Proofs.Text.Spacing AdSearch.Proofs.Query.Lexing
  AdSearch.Proofs.Query.Draft AdSearch.Proofs.Query.Layout AdSearch.Proofs.Query.Extraction
  AdSearch.Proofs.Query.Ending AdSearch.Proofs.Query.Heading AdSearch.Proofs.Query.Splitting
  AdSearch.Proofs.Query.Reading AdSearch.Proofs.Query.Tolerance

/-! ## Printed texts -/

theorem sameWords_of_written {ts : List Token} {cs : List Char} (h : Written ts cs)
    (next : List Char) : SameWords (cs ++ next) (textOf ts ++ next) := by
  induction h with
  | nil => exact ⟨rfl, rfl⟩
  | gap hgap _ ih =>
    rw [textOf_cons, List.append_assoc, List.append_assoc]
    exact SameWords.of_blanks hgap blanks_space ih.1
  | token _ _ ih =>
    rw [textOf_cons, List.append_assoc, List.append_assoc]
    exact ih.append_left _

/-- The text of a draft is collapsed already, up to what follows an ending. -/
theorem exists_of_collapse {d : Draft} {tail : List Char}
    (htail : tail = [] ∨ d.isOpen = true ∧ startsBlank tail = true) :
    ∃ rest, collapse (textOf d.tokens ++ tail) = textOf d.tokens ++ rest ∧
      (rest = [] ∨ d.isOpen = true ∧ startsBlank rest = true) := by
  have hspaced := (solid_draft d).isSpaced true
  refine ⟨collapseTail tail, collapse_append_tail hspaced (htail.imp_right And.right), ?_⟩
  rcases htail with rfl | ⟨hopen, -⟩
  · exact Or.inl rfl
  · rw [collapseTail]
    split
    · exact Or.inl rfl
    · exact Or.inr ⟨hopen, by rw [startsBlank]; decide⟩

/-- A print collapses to the text of its draft, up to what follows an ending. -/
theorem exists_of_prints {d : Draft} {s : String} (h : d.Prints s) :
    ∃ tail, collapse s.toList = textOf d.tokens ++ tail ∧
      (tail = [] ∨ d.isOpen = true ∧ startsBlank tail = true) := by
  obtain ⟨cs, tail, hs, hwritten, htail⟩ := h
  rw [hs, collapse_congr (sameWords_of_written hwritten tail).1]
  exact exists_of_collapse htail

/-- The text of tokens with given runs of blanks, and with single spaces after the last of them. -/
def spread : List (List Char) → List Token → List Char
  | _, [] => []
  | gaps, t :: ts =>
    if t = space then gaps.headD [' '] ++ spread gaps.tail ts else t.text ++ spread gaps ts

theorem written_spread {gaps : List (List Char)} (h : ∀ gap ∈ gaps, Blanks gap)
    (ts : List Token) : Written ts (spread gaps ts) := by
  induction ts generalizing gaps with
  | nil => exact .nil
  | cons t ts ih =>
    by_cases ht : t = space
    · have htail : ∀ gap ∈ gaps.tail, Blanks gap := by
        intro gap hgap
        exact h gap (List.mem_of_mem_tail hgap)
      rw [spread, if_pos ht, ht]
      cases gaps with
      | nil => exact .gap blanks_space (ih htail)
      | cons gap gaps => exact .gap (h gap List.mem_cons_self) (ih htail)
    · rw [spread, if_neg ht]
      exact .token ht (ih h)

/-! ## The conditions -/

theorem readPredicates_lines (comparisons : List Comparison) :
    readPredicates (comparisons.map line) = ⟨[], .ok (comparisons.map Comparison.condition)⟩ := by
  induction comparisons with
  | nil => rfl
  | cons c comparisons ih =>
    have hread : condition? (line c) = ⟨[], .ok (some c.condition)⟩ := by
      rw [condition?, read_line]
      rfl
    rw [List.map_cons, readPredicates_cons, hread, ih]
    rfl

theorem readConditions_clause (c : Clause) :
    readConditions (textOf c.bodyTokens) = ⟨[], .ok (c.conditions, c.range)⟩ := by
  have hplaces : ∀ place ∈ (remainder c).places, Plain place := fun _ => place_remainder c
  rw [readConditions_eq, predicateTexts, takeDateRange_body]
  dsimp only
  rw [splitPredicates_body hplaces, comparisons_remainder, readPredicates_lines]
  rfl

/-! ## The query -/

theorem startsWord_clauseTokens {d : Draft} {tail : List Char}
    (htail : tail = [] ∨ d.isOpen = true ∧ startsBlank tail = true) :
    startsWord (textOf d.clauseTokens ++ tail) = false := by
  cases hclause : d.clause with
  | some c =>
    rw [Draft.clauseTokens, hclause]
    exact startsWord_space _
  | none =>
    have hopen : d.isOpen = false := by simp [Draft.isOpen, hclause]
    have hnil : tail = [] := by simpa [hopen] using htail
    rw [Draft.clauseTokens, hclause, hnil]
    rfl

theorem readConditions_draft {d : Draft} {tail : List Char}
    (htail : tail = [] ∨ d.isOpen = true ∧ startsBlank tail = true) :
    readConditions ((whereClause? (textOf d.clauseTokens ++ tail)).getD []) =
      ⟨[], .ok (d.clause.elim [] Clause.conditions, d.clause.bind Clause.range)⟩ := by
  cases hclause : d.clause with
  | none =>
    have hopen : d.isOpen = false := by simp [Draft.isOpen, hclause]
    have hnil : tail = [] := by simpa [hopen] using htail
    rw [Draft.clauseTokens, hclause, hnil]
    rfl
  | some c =>
    have hopen : d.isOpen = c.ending.isSome := by simp [Draft.isOpen, hclause]
    rw [hopen] at htail
    have hwhere := whereClause?_clause c htail
    rw [Draft.clauseTokens, hclause]
    change readConditions ((whereClause? (textOf (space :: c.word.token :: space ::
      c.bodyTokens ++ c.endTokens) ++ tail)).getD []) = _
    rw [hwhere, Option.getD_some, readConditions_clause]
    rfl

theorem readCollapsed_draft {d : Draft} {tail : List Char}
    (htail : tail = [] ∨ d.isOpen = true ∧ startsBlank tail = true) :
    readCollapsed (textOf d.tokens ++ tail) = ⟨[], .ok d.query⟩ := by
  have htext : textOf d.tokens ++ tail = textOf (d.word.token :: space :: d.fieldTokens) ++
      (' ' :: (d.fromWord.chars ++ (' ' :: (d.source.chars ++
        (textOf d.clauseTokens ++ tail))))) := by
    simp [Draft.tokens, Spelling.token, Name.token, Token.text]
  have hselect := selectClause?_draft d
    (startsWord_space (d.source.chars ++ (textOf d.clauseTokens ++ tail)))
  have hsource := sourceClause?_draft d (startsWord_clauseTokens htail)
  have hnames : (d.fields.map Path.chars).isEmpty = false := by simp [Draft.fields]
  rw [htext, readCollapsed, hselect]
  dsimp only
  rw [fieldNames_draft, if_neg (by simp [hnames]), hsource]
  dsimp only
  rw [readConditions_draft htail, List.map_map]
  rfl

/-- A printed draft is read as the query that it means, and nothing is logged. -/
theorem parse_of_prints (d : Draft) (s : String) (h : d.Prints s) :
    parse s = ⟨[], .ok d.query⟩ := by
  obtain ⟨tail, hcollapse, htail⟩ := exists_of_prints h
  rw [parse, hcollapse, readCollapsed_draft htail]

/-- A draft with a negated list, conjunctions inside it, both directives and a limit. -/
def tangledDraft : Draft where
  word := ⟨['S', 'e', 'l', 'e', 'c', 't'], rfl⟩
  first := ⟨['a', '.', 'b'], List.all_eq_true.mp (by decide), by decide⟩
  rest := [(⟨false, true⟩, ⟨['a', '.', 'b'], List.all_eq_true.mp (by decide), by decide⟩)]
  fromWord := ⟨['f', 'r', 'o', 'm'], rfl⟩
  source := ⟨['c'], by simp, List.all_eq_true.mp (by decide)⟩
  stays := by
    intro entry hentry
    rw [List.mem_singleton.mp hentry]
    decide
  clause := some {
    word := ⟨['W', 'H', 'E', 'R', 'E'], rfl⟩
    first := .comparison {
      field := ⟨['d', '.', 'e'], List.all_eq_true.mp (by decide), by decide⟩
      operator := .notIn ⟨['N', 'O', 'T'], rfl⟩ ⟨['i', 'n'], rfl⟩
      operand := .group true true ⟨
        .quoted {
          mark := '\''
          inner := ['x', ' ', 'A', 'N', 'D', ' ', 'y']
          isMark := rfl
          closes := by simp
          isSpaced := by decide
          noDuring := by decide
          noSplit := by decide
          noBetween := by decide },
        [(⟨false, true⟩, .bare {
          chars := ['o', 'r']
          ne_nil := by simp
          isPlain := List.all_eq_true.mp (by decide)
          noSplit := by decide
          stays := by decide })]⟩
      notDate := by decide
      notConjunction := by decide
      listed := by intro h; cases h
      value_ne_nil := by simp [Operand.value, Operand.tokens, Token.text] }
    rest := [
      (.or ⟨['O', 'R'], rfl⟩, .during {
        field := ⟨['d', 'a', 't', 'e'], List.all_eq_true.mp (by decide), by decide⟩
        isDate := by decide
        word := ⟨['d', 'u', 'r', 'i', 'n', 'g'], rfl⟩
        keyword := ⟨['f'], by simp, List.all_eq_true.mp (by decide)⟩
        stays := by decide }),
      (.comma ⟨true, false⟩, .between {
        field := ⟨['d', 'a', 't', 'e'], List.all_eq_true.mp (by decide), by decide⟩
        isDate := by decide
        word := ⟨['B', 'e', 't', 'w', 'e', 'e', 'n'], rfl⟩
        start := ⟨'\'', ['1'], rfl, by simp, by decide, by decide⟩
        conjunction := ⟨['a', 'n', 'd'], rfl⟩
        stop := ⟨'\'', ['2', ' '], rfl, by simp, by decide, by decide⟩
        start_mark := rfl
        stop_mark := rfl })]
    ending := some (.limit ⟨['l', 'i', 'm', 'i', 't'], rfl⟩)
    stays := by
      intro entry hentry
      rcases List.mem_cons.mp hentry with rfl | hentry
      · decide
      · rw [List.mem_singleton.mp hentry]
        decide
    during_le_one := by decide
    between_le_one := by decide }

/-- The text of the draft with wide gaps, and an open quotation mark after the limit. -/
def tangledText : String :=
  "Select  a.b,\ta.b from c WHERE d.e NOT in ( 'x AND y', or ) OR date during f ,date Between " ++
    "'1' and '2 ' limit 'g"

theorem parse_tangledText :
    tangledDraft.Prints tangledText ∧ parse tangledText =
      ⟨[], .ok ⟨["a.b", "a.b"], "c", [⟨"d.e", .notIn, "( 'x AND y', or )"⟩],
        some (.between (some "1") (some "2"))⟩⟩ := by
  have hgaps : ∀ gap ∈ [[' ', ' '], ['\t']], Blanks gap := by
    intro gap hgap
    rcases List.mem_cons.mp hgap with rfl | hgap
    · exact ⟨by simp, List.all_eq_true.mp (by decide)⟩
    · rw [List.mem_singleton.mp hgap]
      exact ⟨by simp, List.all_eq_true.mp (by decide)⟩
  have htext : tangledText.toList =
      spread [[' ', ' '], ['\t']] tangledDraft.tokens ++ [' ', '\'', 'g'] := by
    decide
  have hprints : tangledDraft.Prints tangledText :=
    ⟨_, _, htext, written_spread hgaps _, Or.inr ⟨rfl, rfl⟩⟩
  exact ⟨hprints, parse_of_prints tangledDraft tangledText hprints⟩

/-- Beyond the drafts, a query may not be read back: a later field is `FROM`; a later condition is
on a field that starts with `limit`; a condition is on `and`, or on a date; a literal is empty, or
holds two blanks together or a directive; the keyword of a directive is `LIMIT`. -/
theorem not_read_back :
    (parse "SELECT a, FROM FROM b").result ≠ .ok ⟨["a", "FROM"], "b", [], none⟩ ∧
    (parse "SELECT a FROM b WHERE c = 'x' AND limit.d = 'y'").result ≠
      .ok ⟨["a"], "b", [⟨"c", .eq, "x"⟩, ⟨"limit.d", .eq, "y"⟩], none⟩ ∧
    (parse "SELECT a FROM b WHERE and = 'x'").result ≠
      .ok ⟨["a"], "b", [⟨"and", .eq, "x"⟩], none⟩ ∧
    (parse "SELECT a FROM b WHERE c.date = 'x'").result ≠
      .ok ⟨["a"], "b", [⟨"c.date", .eq, "x"⟩], none⟩ ∧
    (parse "SELECT a FROM b WHERE c = ''").result ≠ .ok ⟨["a"], "b", [⟨"c", .eq, ""⟩], none⟩ ∧
    (parse "SELECT a FROM b WHERE c = 'x  y'").result ≠
      .ok ⟨["a"], "b", [⟨"c", .eq, "x  y"⟩], none⟩ ∧
    (parse "SELECT a FROM b WHERE c = 'd.date DURING e'").result ≠
      .ok ⟨["a"], "b", [⟨"c", .eq, "d.date DURING e"⟩], none⟩ ∧
    (parse "SELECT a FROM b WHERE c.date DURING LIMIT").result ≠
      .ok ⟨["a"], "b", [], some (.during (some "LIMIT"))⟩ := by
  have hfrom : (parse "SELECT a, FROM FROM b").result = .ok ⟨["a"], "FROM", [], none⟩ := by rfl
  have hlimit : (parse "SELECT a FROM b WHERE c = 'x' AND limit.d = 'y'").result =
      .ok ⟨["a"], "b", [⟨"c", .eq, "x"⟩], none⟩ := by rfl
  have hand : (parse "SELECT a FROM b WHERE and = 'x'").result =
      .ok ⟨["a"], "b", [], none⟩ := by rfl
  have hdate : (parse "SELECT a FROM b WHERE c.date = 'x'").result =
      .ok ⟨["a"], "b", [], none⟩ := by rfl
  have hempty : (parse "SELECT a FROM b WHERE c = ''").result = .ok ⟨["a"], "b", [], none⟩ := by rfl
  have hblanks : (parse "SELECT a FROM b WHERE c = 'x  y'").result =
      .ok ⟨["a"], "b", [⟨"c", .eq, "x y"⟩], none⟩ := by rfl
  have hliteral : (parse "SELECT a FROM b WHERE c = 'd.date DURING e'").result =
      .ok ⟨["a"], "b", [], some (.during (some "e"))⟩ := by rfl
  have hduring : (parse "SELECT a FROM b WHERE c.date DURING LIMIT").result =
      .ok ⟨["a"], "b", [], none⟩ := by rfl
  rw [hfrom, hlimit, hand, hdate, hempty, hblanks, hliteral, hduring]
  simp

end AdSearch.Proofs.Query.RoundTrip
