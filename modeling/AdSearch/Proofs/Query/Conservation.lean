import AdSearch.Proofs.Query.Enclosed

/-!
# Splitting loses no text

The tokens of a text make up the text, if every quotation mark in it belongs to a literal.  The
predicates hold all of it but the blanks, the commas and the conjunctions outside parentheses, in
order; blanks and commas that separate them may be lost or added.
-/

namespace AdSearch.Proofs.Query.Conservation

open AdSearch.Text AdSearch.Query AdSearch.Proofs.Text.Scan AdSearch.Proofs.Text.Spacing
  AdSearch.Proofs.Text.Pieces AdSearch.Proofs.Query.Lexing AdSearch.Proofs.Query.Splitting
  AdSearch.Proofs.Query.Enclosed

/-- A text of which every quotation mark opens or closes a literal, or stands in one. -/
def Paired (cs : List Char) : Prop := ∀ c, Piece.plain c ∈ pieces cs → isMark c = false

/-- The depth of parentheses after a token.  One that closes nothing does not count. -/
def depthAfter (depth : Nat) (t : Token) : Nat :=
  if t = .symbol '(' then depth + 1 else if t = .symbol ')' then depth - 1 else depth

/-- The tokens without the conjunctions outside parentheses. -/
def withoutJoins : Nat → List Token → List Token
  | _, [] => []
  | depth, t :: ts =>
    if depth = 0 ∧ t.isConjunction then withoutJoins depth ts
    else t :: withoutJoins (depthAfter depth t) ts

/-- A character that separates nothing. -/
def isText (c : Char) : Bool := !isBlank c && c != ','

/-! ## Tokens -/

theorem flatMap_text_pieces (cs : List Char) : (pieces cs).flatMap Piece.text = cs := by
  -- on the length, since a literal is taken off at once
  induction hn : cs.length using Nat.strongRecOn generalizing cs with
  | ind n ih =>
    cases cs with
    | nil => rfl
    | cons c cs =>
      by_cases hopens : (isMark c && cs.contains c) = true
      · rw [Bool.and_eq_true, List.contains_iff_mem] at hopens
        obtain ⟨inner, rest, rfl, hinner⟩ := List.eq_append_cons_of_mem hopens.2
        have hliteral : c :: (inner ++ c :: rest) = (Piece.literal c inner).text ++ rest := by
          simp [Piece.text]
        rw [hliteral, pieces_literal hopens.1 hinner, List.flatMap_cons,
          ih rest.length (by simp at hn; omega) rest rfl]
      · have hplain : pieces (c :: cs) = .plain c :: pieces cs := by
          rw [pieces, piecesFrom, if_neg hopens, pieces]
        rw [hplain, List.flatMap_cons, ih cs.length (by simp at hn; omega) cs rfl]
        rfl

theorem textOf_consWord (c : Char) (ts : List Token) : textOf (consWord c ts) = c :: textOf ts := by
  cases ts with
  | nil => rfl
  | cons t ts => cases t <;> rfl

theorem textOf_tokensOf {parts : List Piece} (h : ∀ c, Piece.plain c ∈ parts → isMark c = false) :
    textOf (tokensOf parts) = parts.flatMap Piece.text := by
  induction parts with
  | nil => rfl
  | cons part parts ih =>
    have hrest := ih fun c hc => h c (List.mem_cons_of_mem part hc)
    cases part with
    | literal mark inner => rw [tokensOf, textOf_cons, hrest]; rfl
    | plain c =>
      have hc : ¬isMark c = true := by simp [h c List.mem_cons_self]
      rw [tokensOf, if_neg hc, List.flatMap_cons, ← hrest]
      split
      · rfl
      · exact textOf_consWord c (tokensOf parts)

theorem textOf_tokens {cs : List Char} (h : Paired cs) : textOf (tokens cs) = cs := by
  rw [tokens, textOf_tokensOf h, flatMap_text_pieces]

/-! ## What is kept -/

/-- A text character that is no mark of a comma either. -/
def isKept (c : Char) : Bool := isText c && c != commaMark

theorem isKept_of_isBlank {c : Char} (h : isBlank c = true) : isKept c = false := by
  simp [isKept, isText, h]

theorem filter_isKept {cs : List Char} (h : commaMark ∉ cs) : cs.filter isKept = cs.filter isText := by
  refine List.filter_congr fun c hc => ?_
  have hne : c ≠ commaMark := fun heq => h (heq ▸ hc)
  simp [isKept, hne]

theorem filter_dropWhile_isBlank (cs : List Char) :
    (cs.dropWhile isBlank).filter isKept = cs.filter isKept := by
  induction cs with
  | nil => rfl
  | cons c cs ih =>
    by_cases hc : isBlank c = true
    · rw [List.dropWhile_cons_of_pos hc, ih,
        List.filter_cons_of_neg (by simp [isKept_of_isBlank hc])]
    · rw [List.dropWhile_cons_of_neg hc]

theorem filter_trim (cs : List Char) : (trim cs).filter isKept = cs.filter isKept := by
  rw [trim, trimRight, List.filter_reverse, filter_dropWhile_isBlank, List.filter_reverse,
    List.reverse_reverse, trimLeft, filter_dropWhile_isBlank]

theorem filter_flatten_splitOn (cs : List Char) :
    (splitOn commaMark cs).flatten.filter isKept = cs.filter isKept := by
  have hmark : isKept commaMark = false := by decide
  induction cs with
  | nil => rfl
  | cons c cs ih =>
    by_cases hc : c = commaMark
    · rw [hc, splitOn_mark, List.flatten_cons, List.nil_append, ih,
        List.filter_cons_of_neg (by simp [hmark])]
    · obtain ⟨piece, pieces, hsplit⟩ := List.exists_cons_of_ne_nil (splitOn_ne_nil commaMark cs)
      have hsingle : commaMark ∉ [c] := by simpa using Ne.symm hc
      have hcons := splitOn_append hsingle hsplit
      rw [List.singleton_append] at hcons
      rw [hcons, List.flatten_cons, List.append_assoc, ← List.flatten_cons, ← hsplit,
        List.filter_append, ih, ← List.filter_append, List.singleton_append]

theorem flatten_consChunk (text : List Char) (chunks : List (List Char)) :
    (consChunk text chunks).flatten = text ++ chunks.flatten := by
  cases chunks <;> simp [consChunk]

theorem chunksFrom_join {depth : Nat} {t : Token} (h : depth = 0 ∧ t.isConjunction)
    (ts : List Token) : chunksFrom depth (t :: ts) = [] :: chunksFrom depth ts := by
  have hopen : t ≠ .symbol '(' := by
    rintro rfl
    cases h.2
  have hclose : t ≠ .symbol ')' := by
    rintro rfl
    cases h.2
  rw [chunksFrom, if_neg hopen, if_neg hclose, if_pos h]

/-- A token that joins nothing goes to the chunk with its text, or as the mark of a comma. -/
theorem exists_chunksFrom_cons {depth : Nat} {t : Token} (h : ¬(depth = 0 ∧ t.isConjunction))
    (ts : List Token) :
    ∃ text, text.filter isKept = t.text.filter isKept ∧
      chunksFrom depth (t :: ts) = consChunk text (chunksFrom (depthAfter depth t) ts) := by
  rw [chunksFrom, depthAfter, if_neg h]
  split
  · exact ⟨t.text, rfl, rfl⟩
  · split
    · exact ⟨t.text, rfl, rfl⟩
    · split
      · rename_i hcomma
        refine ⟨[commaMark], ?_, rfl⟩
        rw [hcomma.2]
        decide
      · exact ⟨t.text, rfl, rfl⟩

/-- The chunks hold what the tokens hold that are no conjunctions outside parentheses. -/
theorem filter_flatten_chunksFrom (depth : Nat) (ts : List Token) :
    (chunksFrom depth ts).flatten.filter isKept =
      (textOf (withoutJoins depth ts)).filter isKept := by
  induction ts generalizing depth with
  | nil => rfl
  | cons t ts ih =>
    by_cases hjoin : depth = 0 ∧ t.isConjunction
    · rw [chunksFrom_join hjoin, withoutJoins, if_pos hjoin, List.flatten_cons, List.nil_append, ih]
    · obtain ⟨text, htext, hchunks⟩ := exists_chunksFrom_cons hjoin ts
      rw [hchunks, withoutJoins, if_neg hjoin, flatten_consChunk, textOf_cons, List.filter_append,
        List.filter_append, htext, ih]

theorem filter_gluePieces (pieces : List (List Char)) :
    ((gluePieces pieces).1 ++ (gluePieces pieces).2.flatten).filter isKept =
      pieces.flatten.filter isKept := by
  have hcomma : ∀ cs, (',' :: ' ' :: cs).filter isKept = cs.filter isKept := fun cs => rfl
  induction pieces with
  | nil => rfl
  | cons piece pieces ih =>
    rw [List.flatten_cons, List.filter_append piece, ← ih]
    simp only [gluePieces]
    split
    · simp [List.filter_append]
    · split
      · rename_i hempty
        rw [List.isEmpty_iff.mp hempty, List.filter_nil, List.nil_append]
      · rw [List.cons_append, List.cons_append, List.cons_append, List.cons_append, hcomma,
          List.append_assoc, List.filter_append]

theorem filter_flatten_mergePieces (pieces : List (List Char)) :
    (mergePieces pieces).flatten.filter isKept = pieces.flatten.filter isKept := by
  induction pieces with
  | nil => rfl
  | cons piece pieces ih =>
    rw [mergePieces]
    split
    · rename_i hempty
      rw [ih, List.flatten_cons, List.isEmpty_iff.mp hempty, List.nil_append]
    · simp only [List.flatten_cons]
      rw [List.append_assoc, List.filter_append, filter_gluePieces, List.filter_append]

/-- The predicates of a chunk hold what it holds. -/
theorem filter_flatten_chunk (chunk : List Char) :
    (mergePieces ((splitOn commaMark chunk).map trim)).flatten.filter isKept =
      chunk.filter isKept := by
  have htrim : ∀ pieces : List (List Char),
      (pieces.map trim).flatten.filter isKept = pieces.flatten.filter isKept := by
    intro pieces
    rw [List.filter_flatten, List.filter_flatten, List.map_map]
    exact congrArg List.flatten (List.map_congr_left fun piece _ => filter_trim piece)
  rw [filter_flatten_mergePieces, htrim, filter_flatten_splitOn]

theorem filter_flatten_predicatesOf (chunks : List (List Char)) :
    (predicatesOf chunks).flatten.filter isKept = chunks.flatten.filter isKept := by
  induction chunks with
  | nil => rfl
  | cons chunk chunks ih =>
    rw [predicatesOf] at ih ⊢
    rw [List.flatMap_cons, List.flatten_append, List.filter_append, filter_flatten_chunk, ih,
      List.flatten_cons, List.filter_append]

theorem filter_flatten_splitPredicates (cs : List Char) :
    (splitPredicates cs).flatten.filter isKept =
      (textOf (withoutJoins 0 (tokens cs))).filter isKept := by
  have hsplit : splitPredicates cs = predicatesOf (chunksFrom 0 (tokens cs)) := rfl
  rw [hsplit, filter_flatten_predicatesOf, filter_flatten_chunksFrom]

theorem withoutJoins_subset (depth : Nat) (ts : List Token) : withoutJoins depth ts ⊆ ts := by
  induction ts generalizing depth with
  | nil => exact List.Subset.refl []
  | cons t ts ih =>
    rw [withoutJoins]
    split
    · exact List.subset_cons_of_subset t (ih depth)
    · exact List.cons_subset_cons t (ih _)

theorem textOf_subset {ts us : List Token} (h : ts ⊆ us) : textOf ts ⊆ textOf us := by
  intro c hc
  obtain ⟨t, ht, hmem⟩ := List.mem_flatMap.mp hc
  exact List.mem_flatMap.mpr ⟨t, h ht, hmem⟩

/-! ## Trimmed predicates -/

theorem startsBlank_append_of_ne_nil {xs : List Char} (h : xs ≠ []) (ys : List Char) :
    startsBlank (xs ++ ys) = startsBlank xs := by
  cases xs with
  | nil => exact absurd rfl h
  | cons x xs => rfl

/-- A text after another one ends it, unless it is empty. -/
theorem startsBlank_reverse_append {xs ys : List Char} (hxs : startsBlank xs.reverse = false)
    (hys : startsBlank ys.reverse = false) : startsBlank (xs ++ ys).reverse = false := by
  rw [List.reverse_append]
  cases hrev : ys.reverse with
  | nil => exact hxs
  | cons c cs => rwa [startsBlank_append_of_ne_nil (by simp), ← hrev]

/-- A text that is not empty and has no blanks at its ends. -/
def Trimmed (text : List Char) : Prop := text ≠ [] ∧ trim text = text

theorem trimmed_append {piece tail : List Char} (hne : piece ≠ []) (hpiece : trim piece = piece)
    (htail : startsBlank tail.reverse = false) : Trimmed (piece ++ tail) := by
  have hstarts := startsBlank_trim piece
  have hends := startsBlank_reverse_trim piece
  rw [hpiece] at hstarts hends
  refine ⟨by simp [hne], trim_eq_self ?_ (startsBlank_reverse_append hends htail)⟩
  rwa [startsBlank_append_of_ne_nil hne]

theorem trimmed_gluePieces {pieces : List (List Char)} (h : ∀ piece ∈ pieces, trim piece = piece) :
    startsBlank (gluePieces pieces).1.reverse = false ∧
      ∀ text ∈ (gluePieces pieces).2, Trimmed text := by
  induction pieces with
  | nil => exact ⟨rfl, List.forall_mem_nil _⟩
  | cons piece pieces ih =>
    rw [List.forall_mem_cons] at h
    obtain ⟨htail, hpredicates⟩ := ih h.2
    simp only [gluePieces]
    split
    · rename_i hstarts
      have hne : piece ≠ [] := by
        rintro rfl
        cases hstarts
      exact ⟨rfl, List.forall_mem_cons.mpr ⟨trimmed_append hne h.1 htail, hpredicates⟩⟩
    · split
      · exact ⟨htail, hpredicates⟩
      · rename_i hempty
        have hends := startsBlank_reverse_trim piece
        rw [h.1] at hends
        have hne : piece.reverse ≠ [] := by simpa using hempty
        have hglued : startsBlank (',' :: ' ' :: piece).reverse = false := by
          rw [List.reverse_cons, List.reverse_cons, List.append_assoc,
            startsBlank_append_of_ne_nil hne, hends]
        exact ⟨startsBlank_reverse_append hglued htail, hpredicates⟩

theorem trimmed_mergePieces {pieces : List (List Char)} (h : ∀ piece ∈ pieces, trim piece = piece) :
    ∀ text ∈ mergePieces pieces, Trimmed text := by
  induction pieces with
  | nil => exact List.forall_mem_nil _
  | cons piece pieces ih =>
    rw [List.forall_mem_cons] at h
    obtain ⟨htail, hpredicates⟩ := trimmed_gluePieces h.2
    rw [mergePieces]
    split
    · exact ih h.2
    · rename_i hempty
      have hne : piece ≠ [] := by simpa using hempty
      exact List.forall_mem_cons.mpr ⟨trimmed_append hne h.1 htail, hpredicates⟩

theorem trimmed_of_mem_splitPredicates {cs text : List Char} (h : text ∈ splitPredicates cs) :
    Trimmed text := by
  obtain ⟨chunk, -, htext⟩ := List.mem_flatMap.mp h
  refine trimmed_mergePieces (fun piece hpiece => ?_) text htext
  obtain ⟨raw, -, rfl⟩ := List.mem_map.mp hpiece
  exact trim_trim raw

/-! ## Conservation -/

/-- Splitting a text, with every quotation mark paired and without the mark of a comma, into tokens
loses nothing, and splitting it into predicates loses nothing but blanks, commas and conjunctions
outside parentheses. -/
theorem splitPredicates_keeps_text {cs : List Char} (hpaired : Paired cs) (hmark : commaMark ∉ cs) :
    textOf (tokens cs) = cs ∧
      (splitPredicates cs).flatten.filter isText =
        (textOf (withoutJoins 0 (tokens cs))).filter isText ∧
      ∀ text ∈ splitPredicates cs, text ≠ [] ∧ trim text = text := by
  have htokens := textOf_tokens hpaired
  have hkept : commaMark ∉ textOf (withoutJoins 0 (tokens cs)) := by
    intro hmem
    have hsub := textOf_subset (withoutJoins_subset 0 (tokens cs)) hmem
    rw [htokens] at hsub
    exact hmark hsub
  have hpredicates : commaMark ∉ (splitPredicates cs).flatten := by
    intro hmem
    obtain ⟨text, htext, hc⟩ := List.mem_flatten.mp hmem
    exact not_mem_splitPredicates htext hc
  refine ⟨htokens, ?_, fun text => trimmed_of_mem_splitPredicates⟩
  rw [← filter_isKept hpredicates, ← filter_isKept hkept, filter_flatten_splitPredicates]

/-- A conjunction in a literal, one in nested parentheses, a parenthesis that closes nothing, and
commas with nothing between them. -/
def tangledBody : List Char := "a = 'x AND, y' and b IN (1, (2 OR 3)) ) OR ,, c > 4, d".toList

theorem splitPredicates_keeps_text_tangled :
    Paired tangledBody ∧ commaMark ∉ tangledBody ∧
      (splitPredicates tangledBody).map String.ofList =
        ["a = 'x AND, y'", "b IN (1, (2 OR 3)) )", "c > 4, d"] ∧
      (splitPredicates tangledBody).flatten.filter isText =
        (textOf (withoutJoins 0 (tokens tangledBody))).filter isText := by
  have hplain : Piece.plain '\'' ∉ pieces tangledBody ∧ Piece.plain '"' ∉ pieces tangledBody := by
    decide +kernel
  have hpaired : Paired tangledBody := by
    intro c hc
    cases hmark : isMark c with
    | false => rfl
    | true =>
      rcases eq_of_isMark hmark with rfl | rfl
      · exact absurd hc hplain.1
      · exact absurd hc hplain.2
  have hmark : commaMark ∉ tangledBody := by decide +kernel
  exact ⟨hpaired, hmark, by decide +kernel, (splitPredicates_keeps_text hpaired hmark).2.1⟩

end AdSearch.Proofs.Query.Conservation
