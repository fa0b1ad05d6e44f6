import AdSearch.Proofs.Query.Mention
import AdSearch.Proofs.Query.Tolerance
import AdSearch.Proofs.Text.Pieces

/-!
# Queries that are read are well formed

However broken a text is, the query that is read from it has fields, a resource, conditions and a
date range of the expected form.  The fields can be recovered from the field mask.
-/

namespace AdSearch.Proofs.Query.Soundness

open AdSearch.Text AdSearch.Query AdSearch.Log AdSearch.Proofs.Outcome AdSearch.Proofs.Text.Scan
  AdSearch.Proofs.Text.Pieces AdSearch.Proofs.Query.Predicate AdSearch.Proofs.Query.Opening
  AdSearch.Proofs.Query.Mention AdSearch.Proofs.Query.Tolerance

/-! ## Well-formed queries -/

/-- A non-empty run of word characters. -/
def IsRun (w : List Char) : Prop := w ≠ [] ∧ ∀ c ∈ w, isWord c = true

/-- A field to show: not empty, with no blanks at its ends and no comma. -/
def IsField (f : List Char) : Prop := f ≠ [] ∧ trim f = f ∧ ',' ∉ f

/-- Runs with points between them, the last of which is not `date` in any letter case. -/
def IsConditionField (path : List Char) : Prop :=
  ∃ runs last, path = List.intercalate ['.'] (runs ++ [last]) ∧ (∀ w ∈ runs ++ [last], IsRun w) ∧
    sameLetters last Keyword.dateWord = false

/-- A date as it is written: no blanks at its ends and no single quotes. -/
def IsDateText (s : List Char) : Prop := trim s = s ∧ '\'' ∉ s

/-- A date range of which all parts are there. -/
inductive Complete : DateRange → Prop
  | during {keyword : List Char} : IsRun keyword →
    Complete (.during (some (String.ofList keyword)))
  | between {start stop : List Char} : IsDateText start → IsDateText stop →
    Complete (.between (some (String.ofList start)) (some (String.ofList stop)))

structure WellFormed (q : AdSearch.Query) : Prop where
  fields_ne_nil : q.selectFields ≠ []
  isField : ∀ f ∈ q.selectFields, IsField f.toList
  split_fieldMask : (splitOn ',' q.fieldMask.toList).map String.ofList = q.selectFields
  isRun_source : IsRun q.source.toList
  isConditionField : ∀ c ∈ q.conditions, IsConditionField c.field.toList
  value_ne : ∀ c ∈ q.conditions, c.value ≠ ""
  complete : ∀ range ∈ q.dateRange, Complete range

/-! ## Fields and resource -/

theorem isField_of_mem_fieldNames {cs name : List Char} (h : name ∈ fieldNames cs) :
    IsField name := by
  rw [fieldNames, List.mem_filter, List.mem_map] at h
  obtain ⟨⟨piece, hpiece, rfl⟩, hne⟩ := h
  refine ⟨by simpa using hne, trim_trim piece, fun hmem => ?_⟩
  exact (mem_of_mem_splitOn hpiece).1 (trim_subset piece hmem)

theorem toList_fieldMask (names : List (List Char)) (source : String) (found : List Condition)
    (range : Option DateRange) :
    (AdSearch.Query.fieldMask ⟨names.map String.ofList, source, found, range⟩).toList =
      List.intercalate [','] names := by
  rw [AdSearch.Query.fieldMask, String.toList_intercalate, List.map_map]
  congr 1
  exact List.map_id'' (fun name => String.toList_ofList) names

theorem isRun_of_sourceClause? {cs source rest : List Char}
    (h : sourceClause? cs = some (source, rest)) : IsRun source := by
  rw [sourceClause?, Option.map_eq_some_iff] at h
  obtain ⟨⟨before, read⟩, hfind, rfl⟩ := h
  obtain ⟨here, -, hhere⟩ := exists_of_find? hfind
  simp only [Option.bind_eq_bind, Option.bind_eq_some_iff] at hhere
  obtain ⟨_, -, _, -, hword⟩ := hhere
  obtain ⟨hne, hwords, -⟩ := exists_of_word? hword
  exact ⟨hne, hwords⟩

/-! ## Conditions -/

theorem isRun_of_mem_segments {path segment : List Char} (hpath : IsPath path)
    (h : segment ∈ splitOn '.' path) : IsRun segment := by
  obtain ⟨hpoint, hsub⟩ := mem_of_mem_splitOn h
  refine ⟨hpath.2 segment h, fun c hc => ?_⟩
  have hchar := hpath.1 c (hsub hc)
  rw [Bool.or_eq_true, beq_iff_eq] at hchar
  rcases hchar with hword | rfl
  · exact hword
  · exact absurd hc hpoint

theorem isConditionField_of_isPath {path : List Char} (hpath : IsPath path)
    (hdate : isDatePath path = false) : IsConditionField path := by
  obtain ⟨runs, last, hsplit⟩ : ∃ runs last, splitOn '.' path = runs ++ [last] := by
    rcases List.eq_nil_or_concat (splitOn '.' path) with hnil | ⟨runs, last, hconcat⟩
    · exact absurd hnil (splitOn_ne_nil '.' path)
    · exact ⟨runs, last, by rw [hconcat, List.concat_eq_append]⟩
  refine ⟨runs, last, ?_, ?_, ?_⟩
  · rw [← hsplit, intercalate_splitOn]
  · rw [← hsplit]
    intro w hw
    exact isRun_of_mem_segments hpath hw
  · have hlower : ¬lower last = Keyword.dateWord := by simpa [isDatePath, hsplit] using hdate
    rw [← sameLetters_date_iff] at hlower
    simpa using hlower

/-- Every condition comes from the text of a predicate. -/
theorem exists_predicateText {cs : List Char} {found : List Condition} {range : Option DateRange}
    (h : (readConditions cs).result = .ok (found, range)) {c : Condition} (hc : c ∈ found) :
    ∃ text ∈ predicateTexts cs, Predicate.read text = .condition c := by
  have htol := (readConditions_ok_iff cs).mp ⟨_, h⟩
  rw [readConditions_of_tolerated htol] at h
  obtain ⟨rfl, -⟩ := Prod.mk.inj (Except.ok.inj h)
  obtain ⟨text, hmem, hkept⟩ := List.mem_filterMap.mp hc
  refine ⟨text, hmem, ?_⟩
  unfold kept? at hkept
  split at hkept
  · rename_i hread
    rw [hread, Option.some.inj hkept]
  · cases hkept

/-! ## Date ranges -/

theorem range_of_readConditions {cs : List Char} {found : List Condition}
    {range : Option DateRange} (h : (readConditions cs).result = .ok (found, range)) :
    range = (takeDateRange cs).1 := by
  have htol := (readConditions_ok_iff cs).mp ⟨_, h⟩
  rw [readConditions_of_tolerated htol] at h
  obtain ⟨-, rfl⟩ := Prod.mk.inj (Except.ok.inj h)
  rfl

theorem takeDirective_fst_cases {directive? : Bool → List Char → Option (DateRange × List Char)}
    {P : DateRange → Prop} {cs : List Char} {range : Option DateRange}
    (hread : ∀ {afterWord here found rest}, directive? afterWord here = some (found, rest) →
      P found) (hrange : ∀ found ∈ range, P found) :
    ∀ found ∈ (takeDirective directive? range cs).1, P found := by
  intro found hfound
  unfold takeDirective at hfound
  split at hfound
  · rename_i before found' rest hfind
    obtain ⟨here, -, hhere⟩ := exists_of_find? hfind
    obtain rfl : found' = found := Option.some.inj hfound
    exact hread hhere
  · exact hrange found hfound

theorem complete_of_during? {afterWord : Bool} {cs rest : List Char} {range : DateRange}
    (h : during? afterWord cs = some (range, rest)) : Complete range := by
  obtain ⟨_, _, _, keyword, -, -, -, -, hne, hwords, rfl⟩ := exists_of_during? h
  exact .during ⟨hne, hwords⟩

theorem complete_of_between? {afterWord : Bool} {cs rest : List Char} {range : DateRange}
    (h : between? afterWord cs = some (range, rest)) : Complete range := by
  obtain ⟨_, _, first, last, -, -, -, hfirst, hlast, rfl⟩ := exists_of_between? h
  exact .between ⟨trim_trim first, fun hmem => hfirst (trim_subset first hmem)⟩
    ⟨trim_trim last, fun hmem => hlast (trim_subset last hmem)⟩

theorem complete_of_takeDateRange (cs : List Char) :
    ∀ range ∈ (takeDateRange cs).1, Complete range := by
  unfold takeDateRange
  apply takeDirective_fst_cases complete_of_between?
  exact takeDirective_fst_cases complete_of_during? (by simp)

/-! ## Queries -/

theorem exists_of_parse {s : String} {q : AdSearch.Query} (h : (parse s).result = .ok q) :
    ∃ fields rest source rest' found range,
      selectClause? (collapse s.toList) = some (fields, rest) ∧ fieldNames fields ≠ [] ∧
      sourceClause? rest = some (source, rest') ∧
      (readConditions ((whereClause? rest').getD [])).result = .ok (found, range) ∧
      q = ⟨(fieldNames fields).map String.ofList, String.ofList source, found, range⟩ := by
  unfold parse readCollapsed at h
  split at h
  · cases h
  · rename_i fields rest hselect
    dsimp only at h
    split at h
    · cases h
    · rename_i hnames
      split at h
      · cases h
      · rename_i source rest' hsource
        obtain ⟨⟨found, range⟩, hread, hq⟩ := result_bind_eq_ok.mp h
        refine ⟨fields, rest, source, rest', found, range, hselect, by simpa using hnames,
          hsource, hread, ?_⟩
        exact (Except.ok.inj hq).symm

/-- Whatever query is read from a text is well formed. -/
theorem wellFormed_of_parse (s : String) (q : AdSearch.Query) (h : (parse s).result = .ok q) :
    WellFormed q := by
  obtain ⟨fields, rest, source, rest', found, range, -, hnames, hsource, hread, rfl⟩ :=
    exists_of_parse h
  have hfields : ∀ name ∈ fieldNames fields, IsField name := fun _ => isField_of_mem_fieldNames
  have hconditions : ∀ c ∈ found, IsConditionField c.field.toList ∧ c.value ≠ "" := by
    intro c hc
    obtain ⟨text, -, htext⟩ := exists_predicateText hread hc
    obtain ⟨field, rest, value, -, hpath, -, hdate, hne, -, -, hcondition⟩ := exists_of_read htext
    rw [hcondition, String.toList_ofList]
    refine ⟨isConditionField_of_isPath hpath hdate, fun hempty => hne ?_⟩
    have hlist := congrArg String.toList hempty
    rwa [String.toList_ofList] at hlist
  have hrange : ∀ r ∈ range, Complete r := by
    rw [range_of_readConditions hread]
    exact complete_of_takeDateRange _
  refine {
    fields_ne_nil := by simpa using hnames
    isField := ?_
    split_fieldMask := ?_
    isRun_source := ?_
    isConditionField := fun c hc => (hconditions c hc).1
    value_ne := fun c hc => (hconditions c hc).2
    complete := hrange }
  · intro f hf
    obtain ⟨name, hname, rfl⟩ := List.mem_map.mp hf
    rw [String.toList_ofList]
    exact hfields name hname
  · rw [toList_fieldMask, splitOn_intercalate hnames fun name hname => (hfields name hname).2.2]
  · rw [String.toList_ofList]
    exact isRun_of_sourceClause? hsource

/-- Empty fields, blanks inside a date, a list without parentheses, a date that is compared with a
number and a quotation mark that is never closed. -/
def untidyText : String :=
  "select campaign.id,, metrics.clicks , FROM campaign where a.Date between ' 2025-01-01' " ++
    "AND '2025-02-01 ', ad.name in x, y z and c.DATE > 1 OR b = it's"

def untidyQuery : AdSearch.Query :=
  ⟨["campaign.id", "metrics.clicks"], "campaign",
    [⟨"ad.name", .isIn, "x, y z"⟩, ⟨"b", .eq, "its"⟩],
    some (.between (some "2025-01-01") (some "2025-02-01"))⟩

theorem wellFormed_untidyQuery :
    (parse untidyText).result = .ok untidyQuery ∧ WellFormed untidyQuery := by
  have hread : (parse untidyText).result = .ok untidyQuery := by decide +kernel
  exact ⟨hread, wellFormed_of_parse untidyText untidyQuery hread⟩

end AdSearch.Proofs.Query.Soundness
