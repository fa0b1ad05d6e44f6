import AdSearch.Proofs.Query.Enclosed

/-!
# Comparisons with a literal

A literal is read as the text between its marks, whatever keywords, separators and parentheses it
holds.  There are exactly four exceptions: a literal that mentions a date directive of either form,
that holds the character which marks commas, or that goes on to another line.
-/

namespace AdSearch.Proofs.Query.QuotedValue

open AdSearch.Text AdSearch.Query AdSearch.Proofs.Query.Predicate AdSearch.Proofs.Query.Lexing
  AdSearch.Proofs.Query.Draft AdSearch.Proofs.Query.Splitting AdSearch.Proofs.Query.Reading
  AdSearch.Proofs.Query.Mention AdSearch.Proofs.Query.Enclosed

variable {mark : Char} {inner : List Char}

theorem text_literal (mark : Char) (inner : List Char) :
    (Piece.literal mark inner).text = mark :: (inner ++ [mark]) := rfl

theorem tokens_literal (hmark : isMark mark = true) (hinner : mark ∉ inner) :
    tokens (Piece.literal mark inner).text = [.literal (Piece.literal mark inner).text] := by
  have hstands : Standing (.literal (Piece.literal mark inner).text) [] :=
    ⟨mark, inner, rfl, hmark, hinner⟩
  have htokens := tokens_of_standing hstands
  rwa [List.append_nil] at htokens

theorem isEnclosed_literal (hmark : isMark mark = true) (hinner : mark ∉ inner) :
    IsEnclosed (Piece.literal mark inner).text where
  opens := by
    rcases eq_of_isMark hmark with rfl | rfl
    · exact ⟨_, by simp, _, rfl⟩
    · exact ⟨_, by simp, _, rfl⟩
  closes := by
    rcases eq_of_isMark hmark with rfl | rfl
    · exact ⟨_, _, by simp, rfl⟩
    · exact ⟨_, _, by simp, rfl⟩
  whole := by
    rw [tokens_literal hmark hinner, chunksFrom_cons rfl rfl]
    exact congrArg (fun text => [text]) (List.append_nil _)

theorem mem_literal_iff {c : Char} (hc : c ≠ mark) :
    c ∈ (Piece.literal mark inner).text ↔ c ∈ inner := by
  simp [text_literal, hc]

/-- A literal is opaque: a field that is compared with one, by an operator that takes no list, is
read as one condition with the text between the marks and without a date range, except if the
field is a date or a conjunction, or if the literal is empty, holds the mark of commas or a line
break, or mentions a date directive. -/
theorem readConditions_literal_iff (f : Path) (op : Operator) (hop : op.takesList = false)
    (mark : Char) (hmark : isMark mark = true) (v : List Char) (hv : mark ∉ v) :
    (readConditions (comparisonText f op (Piece.literal mark v).text)).result =
        .ok ([⟨String.ofList f.chars, op, String.ofList v⟩], none) ↔
      (isDatePath f.chars = false ∧ f.token.isConjunction = false) ∧ v ≠ [] ∧ commaMark ∉ v ∧
        '\n' ∉ v ∧ ¬Mentions DuringText v ∧ ¬Mentions BetweenText v := by
  have henclosed := isEnclosed_literal hmark hv
  have hshown : shownValue op (Piece.literal mark v).text = v := by
    rw [shownValue, if_neg (by simp [hop]), unquote_literal hmark v]
  have hcommaMark : commaMark ≠ mark := by
    rcases eq_of_isMark hmark with rfl | rfl <;> decide
  have hbreak : '\n' ≠ mark := by
    rcases eq_of_isMark hmark with rfl | rfl <;> decide
  constructor
  · intro hread
    obtain ⟨hdate, hfree, hduring, hbetween, hne, hcomma, hline⟩ :=
      of_readConditions_comparisonText henclosed hread rfl
    rw [text_literal, mentions_during_quoted hmark] at hduring
    rw [text_literal, mentions_between_quoted hmark hv] at hbetween
    rw [String.toList_ofList] at hcomma hline
    rw [mem_literal_iff hcommaMark] at hfree
    rw [ne_eq, String.ofList_eq_empty_iff] at hne
    exact ⟨⟨hdate, hfree hcomma⟩, hne, hcomma, hline, hduring, hbetween⟩
  · rintro ⟨⟨hdate, hfree⟩, hne, hcomma, hline, hduring, hbetween⟩
    rw [← mem_literal_iff hcommaMark] at hcomma
    rw [← mem_literal_iff hbreak] at hline
    rw [← mentions_during_quoted hmark] at hduring
    rw [← mentions_between_quoted hmark hv] at hbetween
    have hshown_ne : shownValue op (Piece.literal mark v).text ≠ [] := by rwa [hshown]
    rw [readConditions_comparisonText henclosed hdate hfree hshown_ne hcomma hline hduring hbetween,
      hshown]

theorem isPath_name : IsPath "campaign.name".toList :=
  ⟨List.all_eq_true.mp (by decide), by decide⟩

/-- The path of the name of a campaign. -/
def nameField : Path := ⟨"campaign.name".toList, isPath_name⟩

/-- Keywords, separators, open parentheses, single quotes and the better part of a directive. -/
def tangledLiteral : List Char :=
  "AND (x, LIMIT 1) OR date BETWEEN 'y' AND z, (during '".toList

theorem readConditions_tangledLiteral :
    Operator.like.takesList = false ∧ isMark '"' = true ∧ '"' ∉ tangledLiteral ∧
      (readConditions
          (comparisonText nameField .like (Piece.literal '"' tangledLiteral).text)).result =
        .ok ([⟨"campaign.name", .like, String.ofList tangledLiteral⟩], none) := by
  have hfree : '"' ∉ tangledLiteral := by decide
  refine ⟨rfl, rfl, hfree, ?_⟩
  exact (readConditions_literal_iff nameField .like rfl '"' rfl tangledLiteral hfree).mpr
    (by decide +kernel)

/-- A literal is not opaque if it mentions a directive with a keyword, a directive with two dates,
the mark of commas or a line break. -/
theorem not_opaque :
    (readConditions "a = 'date DURING x'".toList).result ≠
      .ok ([⟨"a", .eq, "date DURING x"⟩], none) ∧
    (readConditions "a = \"date BETWEEN 'x' AND 'y'\"".toList).result ≠
      .ok ([⟨"a", .eq, "date BETWEEN 'x' AND 'y'"⟩], none) ∧
    (readConditions "a = 'x\x00y'".toList).result ≠ .ok ([⟨"a", .eq, "x\x00y"⟩], none) ∧
    (readConditions "a = 'x\ny'".toList).result ≠ .ok ([⟨"a", .eq, "x\ny"⟩], none) := by
  decide +kernel

end AdSearch.Proofs.Query.QuotedValue
