import AdSearch.Proofs.Text.Blank
import AdSearch.Proofs.Text.Case
import AdSearch.Proofs.Text.Scan
import AdSearch.Query.Predicate

/-!
# Fields and operators in front of a text

What the readers of a predicate accept: a dotted path as long as it goes, then blanks and a word
operator that ends where it ends.
-/

namespace AdSearch.Proofs.Query.Predicate

open AdSearch.Text AdSearch.Query AdSearch.Proofs.Text.Scan AdSearch.Proofs.Text.Case
  AdSearch.Proofs.Text.Blank

/-! ## Fields -/

/-- A dotted path: words with points between them. -/
def IsPath (path : List Char) : Prop :=
  (∀ c ∈ path, (isWord c || c == '.') = true) ∧ ∀ segment ∈ splitOn '.' path, segment ≠ []

instance (path : List Char) : Decidable (IsPath path) := inferInstanceAs (Decidable (_ ∧ _))

/-- Whether a character of a path comes next. -/
def startsPath : List Char → Bool
  | [] => false
  | c :: _ => isWord c || c == '.'

theorem fieldPath?_append {path cs : List Char} (hpath : IsPath path)
    (hcs : startsPath cs = false) : fieldPath? (path ++ cs) = some (path, cs) := by
  obtain ⟨hchars, hsegments⟩ := hpath
  have hstop : cs.takeWhile (fun c => isWord c || c == '.') = [] ∧
      cs.dropWhile (fun c => isWord c || c == '.') = cs := by
    cases cs with
    | nil => exact ⟨rfl, rfl⟩
    | cons c cs =>
      have hc : ¬(isWord c || c == '.') = true := by simpa [startsPath] using hcs
      exact ⟨List.takeWhile_cons_of_neg hc, List.dropWhile_cons_of_neg hc⟩
  have hall : (splitOn '.' path).all (fun segment => !segment.isEmpty) = true := by
    rw [List.all_eq_true]
    intro segment hsegment
    simpa using hsegments segment hsegment
  simp only [fieldPath?]
  rw [List.takeWhile_append_of_pos hchars, List.dropWhile_append_of_pos hchars, hstop.1,
    hstop.2, List.append_nil, if_pos hall]

theorem exists_of_fieldPath? {cs path rest : List Char}
    (h : fieldPath? cs = some (path, rest)) :
    IsPath path ∧ cs = path ++ rest ∧ startsPath rest = false := by
  simp only [fieldPath?] at h
  split at h
  · rename_i hall
    obtain ⟨rfl, rfl⟩ := Prod.mk.inj (Option.some.inj h)
    refine ⟨⟨List.all_eq_true.mp List.all_takeWhile, ?_⟩, List.takeWhile_append_dropWhile.symm, ?_⟩
    · intro segment hsegment
      simpa using List.all_eq_true.mp hall segment hsegment
    · cases hrest : cs.dropWhile fun c => isWord c || c == '.' with
      | nil => rfl
      | cons c rest =>
        have hc := List.head?_dropWhile_not (fun c => isWord c || c == '.') cs
        rw [hrest] at hc
        simpa [startsPath] using hc
  · cases h

/-! ## Operators in words -/

/-- A word operator as it stands in a text, and as it is spelled with one space inside. -/
inductive OperatorWord : List Char → List Char → Prop
  | isIn {word} : sameLetters Keyword.inWord word = true → OperatorWord word word
  | like {word} : sameLetters Keyword.likeWord word = true → OperatorWord word word
  | notIn {negation gap member} : sameLetters Keyword.notWord negation = true → Blanks gap →
    sameLetters Keyword.inWord member = true →
    OperatorWord (negation ++ (gap ++ member)) (negation ++ ' ' :: member)

theorem startsBlank_of_sameLetters {k : Char} {keyword word : List Char}
    (hk : isBlank (caseKey k) = false) (h : sameLetters (k :: keyword) word = true)
    (cs : List Char) : startsBlank (word ++ cs) = false := by
  obtain ⟨c, rest, rfl, hc, -⟩ := sameLetters_cons.mp h
  rw [List.cons_append, startsBlank]
  cases hblank : isBlank c with
  | false => rfl
  | true =>
    have hkey : caseKey k = c := by
      rw [sameLetter, beq_iff_eq] at hc
      rw [hc, caseKey_of_isBlank hblank]
    rw [hkey, hblank] at hk
    cases hk

/-- A text that starts with one keyword does not start with a keyword of another first letter. -/
theorem letters?_of_other_first {k k' : Char} {keyword keyword' word : List Char}
    (hne : sameLetter k k' = false) (h : sameLetters (k' :: keyword') word = true)
    (cs : List Char) : letters? (k :: keyword) (word ++ cs) = none := by
  obtain ⟨c, rest, rfl, hc, -⟩ := sameLetters_cons.mp h
  refine letters?_cons_of_ne ?_ keyword (rest ++ cs)
  rw [sameLetter, beq_iff_eq] at hc
  rwa [sameLetter, ← hc]

theorem wholeWord?_append {keyword word cs : List Char} (h : sameLetters keyword word = true)
    (hcs : startsWord cs = false) : wholeWord? keyword (word ++ cs) = some (word, cs) := by
  rw [wholeWord?, letters?_append h]
  simp [hcs]

theorem exists_of_wholeWord? {keyword cs word rest : List Char}
    (h : wholeWord? keyword cs = some (word, rest)) :
    cs = word ++ rest ∧ sameLetters keyword word = true ∧ startsWord rest = false := by
  rw [wholeWord?, Option.bind_eq_some_iff] at h
  obtain ⟨⟨word', rest'⟩, hletters, hword⟩ := h
  dsimp only at hword
  split at hword
  · cases hword
  · rename_i hrest
    obtain ⟨rfl, rfl⟩ := Prod.mk.inj (Option.some.inj hword)
    obtain ⟨hcs, hsame⟩ := exists_of_letters? hletters
    exact ⟨hcs, hsame, by simpa using hrest⟩

theorem notIn?_append {negation gap member cs : List Char}
    (hnot : sameLetters Keyword.notWord negation = true) (hgap : Blanks gap)
    (hin : sameLetters Keyword.inWord member = true) (hcs : startsWord cs = false) :
    notIn? (negation ++ (gap ++ (member ++ cs))) = some (negation ++ ' ' :: member, cs) := by
  have hstart := startsBlank_of_sameLetters (by decide) hin cs
  simp only [notIn?, letters?_append hnot, Option.bind_eq_bind, Option.bind_some]
  rw [blanks?_append hgap, trimLeft_eq_self hstart, Option.bind_some, wholeWord?_append hin hcs]
  rfl

theorem exists_of_notIn? {cs spelled rest : List Char} (h : notIn? cs = some (spelled, rest)) :
    ∃ word, OperatorWord word spelled ∧ cs = word ++ rest ∧ startsWord rest = false := by
  simp only [notIn?, Option.bind_eq_bind, Option.bind_eq_some_iff] at h
  obtain ⟨⟨negation, cs'⟩, hletters, cs'', hblanks, ⟨member, rest'⟩, hmember, hspelled⟩ := h
  obtain ⟨rfl, rfl⟩ := Prod.mk.inj (Option.some.inj hspelled)
  obtain ⟨rfl, hnot⟩ := exists_of_letters? hletters
  obtain ⟨gap, hgap, hafter, -⟩ := exists_of_blanks? hblanks
  obtain ⟨hmid, hin, hrest⟩ := exists_of_wholeWord? hmember
  dsimp only at hafter
  refine ⟨_, .notIn hnot hgap hin, ?_, hrest⟩
  rw [hafter, hmid, List.append_assoc, List.append_assoc]

theorem wordOperator?_append {gap word spelled cs : List Char} (hgap : Blanks gap)
    (hword : OperatorWord word spelled) (hcs : startsWord cs = false) :
    wordOperator? (gap ++ (word ++ cs)) = some (spelled, cs) := by
  cases hword with
  | isIn hin =>
    have hstart := startsBlank_of_sameLetters (by decide) hin cs
    have hnot : notIn? (word ++ cs) = none := by
      rw [notIn?, Keyword.notWord, letters?_of_other_first (by decide) hin]
      rfl
    simp only [wordOperator?, blanks?_append hgap, trimLeft_eq_self hstart, Option.bind_eq_bind,
      Option.bind_some, hnot, Option.none_or, wholeWord?_append hin hcs, Option.some_or]
  | like hlike =>
    have hstart := startsBlank_of_sameLetters (by decide) hlike cs
    have hnot : notIn? (word ++ cs) = none := by
      rw [notIn?, Keyword.notWord, letters?_of_other_first (by decide) hlike]
      rfl
    have hin : wholeWord? Keyword.inWord (word ++ cs) = none := by
      rw [wholeWord?, Keyword.inWord, letters?_of_other_first (by decide) hlike]
      rfl
    simp only [wordOperator?, blanks?_append hgap, trimLeft_eq_self hstart, Option.bind_eq_bind,
      Option.bind_some, hnot, hin, Option.none_or, wholeWord?_append hlike hcs]
  | @notIn negation gap' member hnot hgap' hin =>
    have hstart := startsBlank_of_sameLetters (by decide) hnot (gap' ++ (member ++ cs))
    simp only [List.append_assoc, wordOperator?, blanks?_append hgap, trimLeft_eq_self hstart,
      Option.bind_eq_bind, Option.bind_some, notIn?_append hnot hgap' hin hcs, Option.some_or]

theorem exists_of_wordOperator? {cs spelled rest : List Char}
    (h : wordOperator? cs = some (spelled, rest)) :
    ∃ gap word, Blanks gap ∧ OperatorWord word spelled ∧ cs = gap ++ (word ++ rest) ∧
      startsWord rest = false := by
  simp only [wordOperator?, Option.bind_eq_bind, Option.bind_eq_some_iff] at h
  obtain ⟨cs', hblanks, hread⟩ := h
  obtain ⟨gap, hgap, rfl, -⟩ := exists_of_blanks? hblanks
  rcases Option.or_eq_some_iff.mp hread with hnot | ⟨-, hread⟩
  · obtain ⟨word, hword, rfl, hrest⟩ := exists_of_notIn? hnot
    exact ⟨gap, word, hgap, hword, rfl, hrest⟩
  rcases Option.or_eq_some_iff.mp hread with hin | ⟨-, hlike⟩
  · obtain ⟨rfl, hsame, hrest⟩ := exists_of_wholeWord? hin
    exact ⟨gap, spelled, hgap, .isIn hsame, rfl, hrest⟩
  · obtain ⟨rfl, hsame, hrest⟩ := exists_of_wholeWord? hlike
    exact ⟨gap, spelled, hgap, .like hsame, rfl, hrest⟩

/-! ## Values -/

theorem exists_of_value? {cs value : List Char} (h : value? cs = some value) :
    '\n' ∉ value ∧ value ⊆ cs := by
  simp only [value?] at h
  split at h
  · cases h
  · rename_i hline
    obtain rfl : trimRight (trimLeft cs) = value := Option.some.inj h
    simp only [Bool.or_eq_true, List.contains_iff_mem, not_or] at hline
    exact ⟨fun hmem => hline.2 (trimRight_subset _ hmem), trim_subset cs⟩

theorem unquote_subset (cs : List Char) : unquote cs ⊆ cs := by
  unfold unquote
  split
  · exact List.Subset.refl _
  · rename_i c rest
    split
    · exact List.subset_cons_of_subset c (List.dropLast_subset rest)
    · exact List.Subset.refl _

theorem symbolOperators_subset {cs rest : List Char} {op : Operator}
    (h : (op, rest) ∈ symbolOperators cs) : rest ⊆ cs := by
  unfold symbolOperators at h
  split at h <;> simp at h
  · rcases h with ⟨-, rfl⟩ | ⟨-, rfl⟩ <;> simp
  · rcases h with ⟨-, rfl⟩ | ⟨-, rfl⟩ <;> simp
  all_goals
    obtain ⟨-, rfl⟩ := h
    simp

/-- The value of a condition: what is written, without quotation marks unless it lists members. -/
def shownValue (op : Operator) (value : List Char) : List Char :=
  if op.takesList then value else unquote value

theorem ofParts_eq_condition {field value : List Char} {op : Operator} {c : Condition}
    (h : Predicate.ofParts field op value = .condition c) :
    shownValue op value ≠ [] ∧ isDatePath field = false ∧
      c = ⟨String.ofList field, op, String.ofList (shownValue op value)⟩ := by
  unfold Predicate.ofParts at h
  change (if (shownValue op value).isEmpty then _ else _) = _ at h
  split at h
  · cases h
  · rename_i hempty
    split at h
    · cases h
    · rename_i hdate
      refine ⟨by simpa using hempty, by simpa using hdate, ?_⟩
      exact (Predicate.condition.inj h).symm

/-- What is recognised has been read as a field and an operator of either kind. -/
theorem exists_of_read_ne {text : List Char} {p : Predicate} (h : Predicate.read text = p)
    (hp : p ≠ .unrecognised) :
    ∃ field rest, fieldPath? text = some (field, rest) ∧
      (wordPredicate? field rest).or (symbolPredicate? field rest) = some p := by
  unfold Predicate.read at h
  rcases hpath : fieldPath? text with _ | ⟨field, rest⟩
  · rw [hpath] at h
    exact absurd h.symm hp
  · rw [hpath, Option.bind_some] at h
    dsimp only at h
    cases hor : (wordPredicate? field rest).or (symbolPredicate? field rest) with
    | none =>
      rw [hor] at h
      exact absurd h.symm hp
    | some q =>
      rw [hor] at h
      obtain rfl : q = p := h
      exact ⟨field, rest, rfl, hor⟩

/-- A condition has a field that is not a date, and a value on one line. -/
theorem exists_of_read {text : List Char} {c : Condition}
    (h : Predicate.read text = .condition c) :
    ∃ field rest value, text = field ++ rest ∧ IsPath field ∧ startsPath rest = false ∧
      isDatePath field = false ∧ value ≠ [] ∧ '\n' ∉ value ∧ value ⊆ rest ∧
      c = ⟨String.ofList field, c.operator, String.ofList value⟩ := by
  obtain ⟨field, rest, hpath, hor⟩ := exists_of_read_ne h (by simp)
  obtain ⟨hfield, rfl, hstop⟩ := exists_of_fieldPath? hpath
  -- in either form the operator is followed by a value in the rest of the text
  have hparts : ∃ op rest' value, rest' ⊆ rest ∧ value? rest' = some value ∧
      Predicate.ofParts field op value = .condition c := by
    rcases Option.or_eq_some_iff.mp hor with hword | ⟨-, hsymbol⟩
    · simp only [wordPredicate?, Option.bind_eq_bind, Option.bind_eq_some_iff] at hword
      obtain ⟨⟨spelled, rest'⟩, hop, value, hvalue, hparts⟩ := hword
      obtain ⟨gap, word, -, -, hrest, -⟩ := exists_of_wordOperator? hop
      dsimp only at hvalue hparts
      split at hparts
      · rename_i op _
        refine ⟨op, rest', value, ?_, hvalue, Option.some.inj hparts⟩
        rw [hrest, ← List.append_assoc]
        exact List.subset_append_right _ _
      · cases hparts
    · obtain ⟨⟨op, rest'⟩, hmem, hread⟩ := List.exists_of_findSome?_eq_some hsymbol
      obtain ⟨value, hvalue, hparts⟩ := Option.map_eq_some_iff.mp hread
      have hsub := List.Subset.trans (symbolOperators_subset hmem) (trimLeft_subset rest)
      exact ⟨op, rest', value, hsub, hvalue, hparts⟩
  obtain ⟨op, rest', value, hrest, hvalue, hparts⟩ := hparts
  obtain ⟨hline, hsub⟩ := exists_of_value? hvalue
  obtain ⟨hne, hdate, rfl⟩ := ofParts_eq_condition hparts
  have hshown : shownValue op value ⊆ value := by
    unfold shownValue
    split
    · exact List.Subset.refl _
    · exact unquote_subset value
  exact ⟨field, rest, shownValue op value, rfl, hfield, hstop, hdate, hne,
    fun hmem => hline (hshown hmem), List.Subset.trans hshown (List.Subset.trans hsub hrest), rfl⟩

end AdSearch.Proofs.Query.Predicate
