import AdSearch.Proofs.Outcome
import AdSearch.Proofs.Query.Predicate
import AdSearch.Query.Parser

/-!
# Which texts the reader tolerates

Reading drops what it does not understand, except for one thing: a word operator that is spelled
with a dotted `I` or a kelvin sign is accepted as a word and then has no operator.  Both halves are
stated here, the exception as a form of the text and not through the reader.
-/

namespace AdSearch.Proofs.Query.Tolerance

open AdSearch.Text AdSearch.Query AdSearch.Log AdSearch.Proofs.Outcome
  AdSearch.Proofs.Text.Scan AdSearch.Proofs.Text.Case AdSearch.Proofs.Text.Blank
  AdSearch.Proofs.Query.Predicate

/-! ## Spelled operators -/

theorem not_isBlank_of_mem_foreignLetters {c : Char} (h : c ∈ foreignLetters) :
    isBlank c = false := by
  have hall : foreignLetters.all (fun c => !isBlank c) = true := by decide
  simpa using List.all_eq_true.mp hall c h

theorem mem_spelled {word spelled : List Char} (h : OperatorWord word spelled) {c : Char}
    (hc : c ∈ word) (hforeign : c ∈ foreignLetters) : c ∈ spelled := by
  cases h with
  | isIn _ => exact hc
  | like _ => exact hc
  | @notIn negation gap member _ hgap _ =>
    have hnot : c ∉ gap := by
      intro hmem
      have := hgap.2 c hmem
      simp [not_isBlank_of_mem_foreignLetters hforeign] at this
    simp only [List.mem_append, List.mem_cons] at hc ⊢
    tauto

/-- Without foreign letters a word operator has the text of an operator as its upper case. -/
theorem ofText?_upper {word spelled : List Char} (h : OperatorWord word spelled)
    (hplain : ∀ c ∈ word, c ∉ foreignLetters) :
    ∃ op, Operator.ofText? (String.ofList (upper spelled)) = some op := by
  have hupper {keyword w : List Char} (hk : keyword ⊆ operatorLetters)
      (hw : ∀ c ∈ w, c ∉ foreignLetters) (hsame : sameLetters keyword w = true) :
      upper w = keyword := by
    rcases upper_of_sameLetters hk hsame with ⟨c, hc, hforeign⟩ | hup
    · exact absurd hforeign (hw c hc)
    · exact hup
  cases h with
  | isIn hin =>
    rw [hupper (by simp [Keyword.inWord, operatorLetters]) hplain hin]
    exact ⟨.isIn, by decide⟩
  | like hlike =>
    rw [hupper (by simp [Keyword.likeWord, operatorLetters]) hplain hlike]
    exact ⟨.like, by decide⟩
  | @notIn negation gap member hnot hgap hin =>
    have hleft : upper negation = Keyword.notWord :=
      hupper (by simp [Keyword.notWord, operatorLetters])
        (fun c hc => hplain c (by simp [hc])) hnot
    have hright : upper member = Keyword.inWord :=
      hupper (by simp [Keyword.inWord, operatorLetters])
        (fun c hc => hplain c (by simp [hc])) hin
    have hboth : upper (negation ++ ' ' :: member) =
        Keyword.notWord ++ ' ' :: Keyword.inWord := by
      rw [upper, List.flatMap_append, List.flatMap_cons]
      change upper negation ++ (upperLetters ' ' ++ upper member) = _
      rw [hleft, hright]
      rfl
    rw [hboth]
    exact ⟨.notIn, by decide⟩

theorem ofText?_of_mem_foreignLetters {c : Char} {w : List Char} (hc : c ∈ foreignLetters)
    (hw : c ∈ w) : Operator.ofText? (String.ofList w) = none := by
  have hall : Operator.all.all (fun op => foreignLetters.all fun c =>
      !op.text.toList.contains c) = true := by decide
  apply List.find?_eq_none.mpr
  intro op hop hsame
  have hlacks := List.all_eq_true.mp (List.all_eq_true.mp hall op hop) c hc
  have htext : op.text = String.ofList w := by simpa using hsame
  rw [htext, String.toList_ofList] at hlacks
  simp [hw] at hlacks

/-! ## One predicate -/

/-- A text that starts with a field and a word operator that is spelled with a foreign letter,
and goes on with a value. -/
def ForeignOperator (text : List Char) : Prop :=
  ∃ field gap word spelled rest, text = field ++ (gap ++ (word ++ rest)) ∧ IsPath field ∧
    Blanks gap ∧ OperatorWord word spelled ∧ startsWord rest = false ∧ (value? rest).isSome ∧
    ∃ c ∈ word, c ∈ foreignLetters

theorem ofParts_ne_unknownOperator (field : List Char) (op : Operator) (value : List Char)
    (spelled : String) : Predicate.ofParts field op value ≠ .unknownOperator spelled := by
  unfold Predicate.ofParts
  dsimp only
  generalize (if op.takesList = true then value else unquote value) = shown
  split
  · simp
  · split <;> simp

theorem wordPredicate?_eq_unknownOperator {field rest : List Char} {s : String}
    (h : wordPredicate? field rest = some (.unknownOperator s)) :
    ∃ spelled rest', wordOperator? rest = some (spelled, rest') ∧ (value? rest').isSome ∧
      Operator.ofText? (String.ofList (upper spelled)) = none := by
  simp only [wordPredicate?, Option.bind_eq_bind, Option.bind_eq_some_iff] at h
  obtain ⟨⟨spelled, rest'⟩, hword, value, hvalue, hop⟩ := h
  dsimp only at hvalue hop
  refine ⟨spelled, rest', hword, by simp [hvalue], ?_⟩
  cases hfound : Operator.ofText? (String.ofList (upper spelled)) with
  | none => rfl
  | some op =>
    rw [hfound] at hop
    exact absurd (Option.some.inj hop) (ofParts_ne_unknownOperator field op value s)

theorem symbolPredicate?_ne_unknownOperator (field rest : List Char) (s : String) :
    symbolPredicate? field rest ≠ some (.unknownOperator s) := by
  intro h
  obtain ⟨⟨op, rest'⟩, -, hread⟩ := List.exists_of_findSome?_eq_some h
  obtain ⟨value, -, hparts⟩ := Option.map_eq_some_iff.mp hread
  exact ofParts_ne_unknownOperator field op value s hparts

theorem startsPath_append_of_blanks {gap : List Char} (hgap : Blanks gap) (cs : List Char) :
    startsPath (gap ++ cs) = false := by
  obtain ⟨c, rest, rfl⟩ := List.exists_cons_of_ne_nil hgap.1
  have hc := hgap.2 c List.mem_cons_self
  have hpoint : c ≠ '.' := by
    rintro rfl
    exact absurd hc (by decide)
  simp [startsPath, isWord_of_isBlank hc, hpoint]

theorem read_eq_unknownOperator_iff {text : List Char} :
    (∃ s, Predicate.read text = .unknownOperator s) ↔ ForeignOperator text := by
  constructor
  · rintro ⟨s, h⟩
    obtain ⟨field, rest, hpath, hor⟩ := exists_of_read_ne h (by simp)
    obtain ⟨hfield, rfl, -⟩ := exists_of_fieldPath? hpath
    rcases Option.or_eq_some_iff.mp hor with hword | ⟨-, hsymbol⟩
    · obtain ⟨spelled, rest', hop, hvalue, hnone⟩ := wordPredicate?_eq_unknownOperator hword
      obtain ⟨gap, word, hgap, hspelled, rfl, hrest⟩ := exists_of_wordOperator? hop
      refine ⟨field, gap, word, spelled, rest', rfl, hfield, hgap, hspelled, hrest, hvalue, ?_⟩
      by_contra hplain
      push Not at hplain
      obtain ⟨op, hop⟩ := ofText?_upper hspelled hplain
      rw [hop] at hnone
      cases hnone
    · exact absurd hsymbol (symbolPredicate?_ne_unknownOperator field rest s)
  · rintro ⟨field, gap, word, spelled, rest, rfl, hfield, hgap, hword, hrest, hvalue, c, hc, hf⟩
    obtain ⟨value, hvalue⟩ := Option.isSome_iff_exists.mp hvalue
    have hnone := ofText?_of_mem_foreignLetters hf
      (mem_upper_of_mem_foreignLetters hf (mem_spelled hword hc hf))
    refine ⟨String.ofList (upper spelled), ?_⟩
    have hword' : wordPredicate? field (gap ++ (word ++ rest)) =
        some (.unknownOperator (String.ofList (upper spelled))) := by
      simp only [wordPredicate?, wordOperator?_append hgap hword hrest, hvalue, hnone,
        Option.bind_eq_bind, Option.bind_some]
    unfold Predicate.read
    rw [fieldPath?_append hfield (startsPath_append_of_blanks hgap _), Option.bind_some]
    dsimp only
    rw [hword', Option.some_or]
    rfl

/-! ## All predicates -/

/-- The condition that a text states. -/
def kept? (text : List Char) : Option Condition :=
  match Predicate.read text with
  | .condition c => some c
  | _ => none

/-- The warning with which a text is dropped. -/
def warning? (text : List Char) : Option Line :=
  match Predicate.read text with
  | .unrecognised => some ⟨.warning, "src.gaql.parser",
      "Dropping unrecognised WHERE predicate: " ++ String.ofList (quoteChars text)⟩
  | .strayDate => some ⟨.warning, "src.gaql.parser",
      "Ignoring date predicate outside DURING/BETWEEN: " ++ String.ofList (quoteChars text)⟩
  | _ => none

theorem condition?_of_tolerated {text : List Char} (h : ¬ForeignOperator text) :
    condition? text = ⟨(warning? text).toList, .ok (kept? text)⟩ := by
  unfold condition? warning? kept?
  cases hread : Predicate.read text with
  | unknownOperator s => exact absurd (read_eq_unknownOperator_iff.mp ⟨s, hread⟩) h
  | _ => rfl

theorem condition?_of_foreign {text : List Char} (h : ForeignOperator text) :
    ∃ spelled, condition? text = ⟨[], .error (.failure (.unknownOperator spelled))⟩ := by
  obtain ⟨s, hread⟩ := read_eq_unknownOperator_iff.mpr h
  refine ⟨s, ?_⟩
  rw [condition?, hread]
  rfl

theorem isSome_kept?_ne {text : List Char} (h : ¬ForeignOperator text) :
    (kept? text).isSome ≠ (warning? text).isSome := by
  unfold warning? kept?
  cases hread : Predicate.read text with
  | unknownOperator s => exact absurd (read_eq_unknownOperator_iff.mp ⟨s, hread⟩) h
  | _ => simp

theorem readPredicates_cons (text : List Char) (texts : List (List Char)) :
    readPredicates (text :: texts) = (condition? text).bind fun head =>
      (readPredicates texts).bind fun tail => ⟨[], .ok (head.toList ++ tail)⟩ := rfl

theorem readPredicates_of_tolerated {texts : List (List Char)}
    (h : ∀ text ∈ texts, ¬ForeignOperator text) :
    readPredicates texts = ⟨texts.filterMap warning?, .ok (texts.filterMap kept?)⟩ := by
  induction texts with
  | nil => rfl
  | cons text texts ih =>
    have htail := ih fun text' htext' => h text' (List.mem_cons_of_mem text htext')
    rw [readPredicates_cons, condition?_of_tolerated (h text List.mem_cons_self), htail]
    cases hw : warning? text <;> cases hk : kept? text <;> simp [Logged.bind, hw, hk]

theorem readPredicates_of_foreign {texts : List (List Char)} {text : List Char}
    (hmem : text ∈ texts) (h : ForeignOperator text) :
    ∃ spelled, (readPredicates texts).result = .error (.failure (.unknownOperator spelled)) := by
  induction texts with
  | nil => cases hmem
  | cons head texts ih =>
    rw [readPredicates_cons]
    by_cases hhead : ForeignOperator head
    · obtain ⟨s, hs⟩ := condition?_of_foreign hhead
      exact ⟨s, by simp [hs, Logged.bind]⟩
    · have hne : text ≠ head := fun heq => hhead (heq ▸ h)
      obtain ⟨s, hs⟩ := ih (List.mem_of_ne_of_mem hne hmem)
      exact ⟨s, by simp [condition?_of_tolerated hhead, hs, Logged.bind]⟩

/-! ## The conditions and the query -/

/-- The texts among the conditions that are read as predicates. -/
def predicateTexts (cs : List Char) : List (List Char) :=
  splitPredicates (takeDateRange cs).2

theorem readConditions_eq (cs : List Char) :
    readConditions cs = (readPredicates (predicateTexts cs)).bind fun found =>
      ⟨[], .ok (found, (takeDateRange cs).1)⟩ := rfl

theorem readConditions_of_tolerated {cs : List Char}
    (h : ∀ text ∈ predicateTexts cs, ¬ForeignOperator text) :
    readConditions cs = ⟨(predicateTexts cs).filterMap warning?,
      .ok ((predicateTexts cs).filterMap kept?, (takeDateRange cs).1)⟩ := by
  rw [readConditions_eq, readPredicates_of_tolerated h]
  simp [Logged.bind]

theorem readConditions_of_foreign {cs text : List Char} (hmem : text ∈ predicateTexts cs)
    (h : ForeignOperator text) :
    ∃ spelled, (readConditions cs).result = .error (.failure (.unknownOperator spelled)) := by
  obtain ⟨s, hs⟩ := readPredicates_of_foreign hmem h
  exact ⟨s, by simp [readConditions_eq, hs, Logged.bind]⟩

/-- The conditions that a query text states, if it has fields and a resource. -/
def conditionsText? (s : String) : Option (List Char) :=
  (selectClause? (collapse s.toList)).bind fun (fields, rest) =>
    if (fieldNames fields).isEmpty then none
    else (sourceClause? rest).map fun (_, rest) => (whereClause? rest).getD []

/-- A query is read, or its fields or its resource are missing. -/
def Tolerates (result : Except SearchError Query) : Prop :=
  (∃ q, result = .ok q) ∨ ∃ fault, result = .error (.query fault) ∧
    (fault.reason = "MISSING_SELECT" ∨ fault.reason = "MISSING_FROM")

theorem reason_mem (fault : QueryFault) :
    fault.reason = "MISSING_SELECT" ∨ fault.reason = "MISSING_FROM" := by
  cases fault <;> simp [QueryFault.reason]

/-- Without conditions that can be read, the clauses before them are at fault; otherwise the
conditions decide. -/
theorem parse_cases (s : String) :
    (conditionsText? s = none ∧ ∃ fault, (parse s).result = .error (.query fault)) ∨
    ∃ cs, conditionsText? s = some cs ∧
      (∀ found range, (readConditions cs).result = .ok (found, range) →
        ∃ q, (parse s).result = .ok q) ∧
      ∀ e, (readConditions cs).result = .error e → (parse s).result = .error e := by
  unfold parse readCollapsed conditionsText?
  cases selectClause? (collapse s.toList) with
  | none => exact Or.inl ⟨rfl, _, rfl⟩
  | some select =>
    obtain ⟨fields, rest⟩ := select
    dsimp only [Option.bind_some]
    by_cases hnames : (fieldNames fields).isEmpty = true
    · rw [if_pos hnames, if_pos hnames]
      exact Or.inl ⟨rfl, _, rfl⟩
    rw [if_neg hnames, if_neg hnames]
    cases sourceClause? rest with
    | none => exact Or.inl ⟨rfl, _, rfl⟩
    | some source =>
      refine Or.inr ⟨_, rfl, ?_, ?_⟩
      · intro found range hread
        exact ⟨_, result_bind_eq_ok.mpr ⟨(found, range), hread, rfl⟩⟩
      · intro e hread
        exact congrArg Logged.result (Logged.bind_of_error hread _)

theorem readConditions_ok_iff (cs : List Char) :
    (∃ answer, (readConditions cs).result = .ok answer) ↔
      ∀ text ∈ predicateTexts cs, ¬ForeignOperator text := by
  constructor
  · rintro ⟨answer, hok⟩ text hmem hforeign
    obtain ⟨spelled, herror⟩ := readConditions_of_foreign hmem hforeign
    rw [hok] at herror
    cases herror
  · intro h
    exact ⟨_, congrArg Logged.result (readConditions_of_tolerated h)⟩

theorem readConditions_eq_error {cs : List Char} {e : SearchError}
    (h : (readConditions cs).result = .error e) :
    ∃ spelled, e = .failure (.unknownOperator spelled) := by
  by_cases htol : ∀ text ∈ predicateTexts cs, ¬ForeignOperator text
  · rw [readConditions_of_tolerated htol] at h
    cases h
  · push Not at htol
    obtain ⟨text, hmem, hforeign⟩ := htol
    obtain ⟨spelled, hspelled⟩ := readConditions_of_foreign hmem hforeign
    rw [hspelled] at h
    exact ⟨spelled, (Except.error.inj h).symm⟩

theorem tolerates_parse_iff (s : String) :
    Tolerates (parse s).result ↔
      ∀ cs, conditionsText? s = some cs → ∀ text ∈ predicateTexts cs, ¬ForeignOperator text := by
  rcases parse_cases s with ⟨hnone, fault, hfault⟩ | ⟨cs, hcs, hok, hbad⟩
  · refine iff_of_true (Or.inr ⟨fault, hfault, reason_mem fault⟩) ?_
    intro cs hcs
    rw [hnone] at hcs
    cases hcs
  rw [hcs]
  constructor
  · rintro htol cs' hcs'
    obtain rfl : cs = cs' := Option.some.inj hcs'
    rw [← readConditions_ok_iff]
    cases hread : (readConditions cs).result with
    | ok answer => exact ⟨answer, rfl⟩
    | error e =>
      obtain ⟨spelled, rfl⟩ := readConditions_eq_error hread
      rw [Tolerates, hbad _ hread] at htol
      simp at htol
  · intro htol
    obtain ⟨⟨found, range⟩, hread⟩ := (readConditions_ok_iff cs).mpr (htol cs rfl)
    exact Or.inl (hok found range hread)

theorem parse_eq_error {s : String} {e : SearchError} (he : (parse s).result = .error e) :
    (∃ fault, e = .query fault) ∨ ∃ spelled, e = .failure (.unknownOperator spelled) := by
  rcases parse_cases s with ⟨-, fault, hfault⟩ | ⟨cs, -, hok, hbad⟩
  · rw [hfault] at he
    exact Or.inl ⟨fault, (Except.error.inj he).symm⟩
  cases hread : (readConditions cs).result with
  | ok answer =>
    obtain ⟨q, hq⟩ := hok answer.1 answer.2 hread
    rw [hq] at he
    cases he
  | error e' =>
    rw [hbad e' hread] at he
    obtain rfl : e' = e := Except.error.inj he
    exact Or.inr (readConditions_eq_error hread)

/-- The reader is tolerant up to foreign letters in word operators.  Conditions are read exactly
when none of their predicates has such an operator, and then each predicate is kept as a condition
or dropped with a warning, in order; a query is read, or is reported to lack its fields or its
resource, exactly when this holds of its conditions; and nothing else goes wrong than that an
operator is unknown. -/
theorem tolerates_iff_no_foreignOperator (cs : List Char) (s : String) :
    ((∃ answer, (readConditions cs).result = .ok answer) ↔
      ∀ text ∈ predicateTexts cs, ¬ForeignOperator text) ∧
    (∀ found range, (readConditions cs).result = .ok (found, range) →
      found = (predicateTexts cs).filterMap kept? ∧
      (readConditions cs).lines = (predicateTexts cs).filterMap warning? ∧
      ∀ text ∈ predicateTexts cs, (kept? text).isSome ≠ (warning? text).isSome) ∧
    (Tolerates (parse s).result ↔
      ∀ cs, conditionsText? s = some cs → ∀ text ∈ predicateTexts cs, ¬ForeignOperator text) ∧
    ∀ e, (parse s).result = .error e →
      (∃ fault, e = .query fault) ∨ ∃ spelled, e = .failure (.unknownOperator spelled) := by
  refine ⟨readConditions_ok_iff cs, ?_, tolerates_parse_iff s, fun e he => parse_eq_error he⟩
  intro found range hok
  have htol := (readConditions_ok_iff cs).mp ⟨_, hok⟩
  rw [readConditions_of_tolerated htol] at hok ⊢
  obtain ⟨hfound, -⟩ := Prod.mk.inj (Except.ok.inj hok)
  exact ⟨hfound.symm, rfl, fun text hmem => isSome_kept?_ne (htol text hmem)⟩

/-- A dotted `I` in `IN` is taken for an operator and found to be none. -/
theorem not_tolerates_dotted_in :
    (parse "SELECT campaign.id FROM campaign WHERE campaign.name \u0130N 'x'").result =
      .error (.failure (.unknownOperator "\u0130N")) ∧
    ¬Tolerates
      (parse "SELECT campaign.id FROM campaign WHERE campaign.name \u0130N 'x'").result := by
  have hresult : (parse "SELECT campaign.id FROM campaign WHERE campaign.name \u0130N 'x'").result =
      .error (.failure (.unknownOperator "\u0130N")) := by rfl
  refine ⟨hresult, ?_⟩
  rw [hresult]
  simp [Tolerates]

end AdSearch.Proofs.Query.Tolerance
