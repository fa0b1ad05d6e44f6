import AdSearch.Proofs.Query.QuotedValue
import AdSearch.Record.Matching

/-!
# Membership in a list of literals

A list of literals in parentheses is kept whole when conditions are read, and is cut at its commas
when a record is matched.  The two agree, so that the list means its members, exactly if no comma
is inside a member and no date directive is mentioned.
-/

namespace AdSearch.Proofs.Query.Membership

open AdSearch.Text AdSearch.Query AdSearch.Proofs.Text.Scan AdSearch.Proofs.Text.Pieces
  AdSearch.Proofs.Query.Predicate AdSearch.Proofs.Query.Lexing AdSearch.Proofs.Query.Draft
  AdSearch.Proofs.Query.Splitting AdSearch.Proofs.Query.Reading AdSearch.Proofs.Query.Mention
  AdSearch.Proofs.Query.Enclosed AdSearch.Proofs.Query.QuotedValue

/-! ## Lists of literals -/

/-- A text in single quotes. -/
def quoted (m : List Char) : List Char := (Piece.literal '\'' m).text

/-- The members in single quotes, with a comma and a space between them. -/
def membersText (members : List (List Char)) : List Char :=
  List.intercalate [',', ' '] (members.map quoted)

/-- The members in parentheses. -/
def listText (members : List (List Char)) : List Char := '(' :: (membersText members ++ [')'])

theorem membersText_cons_cons (m m' : List Char) (ms : List (List Char)) :
    membersText (m :: m' :: ms) = quoted m ++ ',' :: ' ' :: membersText (m' :: ms) := by
  rw [membersText, List.map_cons, List.intercalate_cons_of_ne_nil (by simp)]
  simp [membersText]

theorem membersText_singleton (m : List Char) : membersText [m] = quoted m := by
  rw [membersText, List.map_singleton, List.intercalate_singleton]

/-- The tokens of the members. -/
def memberTokens : List (List Char) → List Token
  | [] => []
  | [m] => [.literal (quoted m)]
  | m :: m' :: ms => .literal (quoted m) :: .symbol ',' :: space :: memberTokens (m' :: ms)

theorem textOf_memberTokens (members : List (List Char)) :
    textOf (memberTokens members) = membersText members := by
  induction members with
  | nil => rfl
  | cons m ms ih =>
    cases ms with
    | nil =>
      rw [membersText_singleton, memberTokens, textOf_cons, textOf_nil, List.append_nil]
      rfl
    | cons m' ms =>
      rw [membersText_cons_cons, memberTokens, textOf_cons, textOf_cons, textOf_cons, ih]
      rfl

theorem memberTokens_spec {members : List (List Char)} (h : ∀ m ∈ members, '\'' ∉ m) :
    ∀ t ∈ memberTokens members, isParenthesis t = false ∧ ∀ next, Standing t next := by
  induction members with
  | nil => simp [memberTokens]
  | cons m ms ih =>
    rw [List.forall_mem_cons] at h
    have hliteral : isParenthesis (.literal (quoted m)) = false ∧
        ∀ next, Standing (.literal (quoted m)) next :=
      ⟨rfl, fun _ => ⟨'\'', m, rfl, rfl, h.1⟩⟩
    cases ms with
    | nil =>
      intro t ht
      rw [memberTokens, List.mem_singleton] at ht
      rw [ht]
      exact hliteral
    | cons m' ms =>
      simp only [memberTokens, List.forall_mem_cons]
      exact ⟨hliteral, ⟨by decide, fun _ => (by decide : isSymbol ',' = true)⟩,
        ⟨by decide, fun _ => (by decide : isSymbol ' ' = true)⟩, ih h.2⟩

theorem tokens_listText {members : List (List Char)} (h : ∀ m ∈ members, '\'' ∉ m) :
    tokens (listText members) = .symbol '(' :: memberTokens members ++ [.symbol ')'] := by
  have hstands : AllStanding (memberTokens members) [')'] :=
    allStanding_of_forall (fun t ht => (memberTokens_spec h t ht).2) [')']
  have hclose : tokens [')'] = [.symbol ')'] := tokens_symbol (by decide) []
  rw [listText, tokens_symbol (by decide), ← textOf_memberTokens, tokens_of_allStanding hstands,
    hclose, List.cons_append]

theorem isEnclosed_listText {members : List (List Char)} (h : ∀ m ∈ members, '\'' ∉ m) :
    IsEnclosed (listText members) where
  opens := ⟨'(', by simp, _, rfl⟩
  closes := ⟨'(' :: membersText members, ')', by simp, rfl⟩
  whole := by
    rw [tokens_listText h, chunksFrom_group (fun t ht => (memberTokens_spec h t ht).1) []]
    have htext : textOf (.symbol '(' :: memberTokens members ++ [.symbol ')']) =
        listText members := by
      rw [textOf_append, textOf_cons, textOf_memberTokens]
      rfl
    rw [htext]
    exact congrArg (fun text => [text]) (List.append_nil _)

/-- What a character other than the separators is in the list for. -/
theorem mem_listText_iff {c : Char} (hc : c ∉ ['(', ')', ',', ' ', '\''])
    (members : List (List Char)) : c ∈ listText members ↔ ∃ m ∈ members, c ∈ m := by
  have hmembers : c ∈ membersText members ↔ ∃ m ∈ members, c ∈ m := by
    induction members with
    | nil => simp [membersText]
    | cons m ms ih =>
      have hquoted : c ∈ quoted m ↔ c ∈ m := mem_literal_iff (by simp at hc; exact hc.2.2.2.2)
      cases ms with
      | nil => simp [membersText_singleton, hquoted]
      | cons m' ms =>
        rw [membersText_cons_cons, List.mem_append, hquoted, List.mem_cons, List.mem_cons, ih]
        simp at hc
        simp [hc]
  rw [listText, List.mem_cons, List.mem_append, hmembers]
  simp at hc
  simp [hc]

theorem not_mem_listText {c : Char} (hc : c ∉ ['(', ')', ',', ' ', '\''])
    {members : List (List Char)} (h : ∀ m ∈ members, c ∉ m) : c ∉ listText members := by
  rw [mem_listText_iff hc]
  rintro ⟨m, hm, hmem⟩
  exact h m hm hmem

/-! ## Directives in a list -/

theorem mentions_during_membersText (members : List (List Char)) :
    Mentions DuringText (membersText members) ↔ ∃ m ∈ members, Mentions DuringText m := by
  induction members with
  | nil => simpa [membersText] using not_mentions_during_nil
  | cons m ms ih =>
    have hquoted : Mentions DuringText (quoted m) ↔ Mentions DuringText m :=
      mentions_during_quoted rfl m
    cases ms with
    | nil => simp [membersText_singleton, hquoted]
    | cons m' ms =>
      have hspace : ∀ next, Mentions DuringText (' ' :: '\'' :: next) ↔
          Mentions DuringText ('\'' :: next) := by
        intro next
        have hleft := mentions_during_append_cons (d := '\'') (by decide) (by decide) [' '] next
        have hright := mentions_during_append_cons (d := '\'') (by decide) (by decide) [] next
        rw [List.nil_append] at hright
        rw [List.singleton_append] at hleft
        rw [hleft, hright]
        simp [not_mentions_during_nil, (by decide : ¬Mentions DuringText [' '])]
      have hstart : ∃ next, membersText (m' :: ms) = '\'' :: next := by
        cases ms with
        | nil => exact ⟨_, membersText_singleton m'⟩
        | cons m'' ms => exact ⟨_, membersText_cons_cons m' m'' ms⟩
      obtain ⟨next, hnext⟩ := hstart
      rw [membersText_cons_cons, mentions_during_append_cons (by decide) (by decide), hquoted,
        hnext, hspace, ← hnext, ih]
      simp

theorem mentions_during_listText (members : List (List Char)) :
    Mentions DuringText (listText members) ↔ ∃ m ∈ members, Mentions DuringText m := by
  rw [listText, ← List.nil_append ('(' :: _),
    mentions_during_append_cons (by decide) (by decide),
    mentions_during_append_cons (by decide) (by decide), mentions_during_membersText]
  simp [not_mentions_during_nil]

/-! ## Members of a list -/

theorem trim_quoted {m gap : List Char} (hm : '\'' ∉ m) (hgap : ∀ c ∈ gap, isBlank c = true) :
    trim (gap ++ quoted m) = quoted m := by
  have henclosed : IsEnclosed (quoted m) := isEnclosed_literal rfl hm
  have hright := henclosed.trimRight_append []
  rw [List.nil_append] at hright
  rw [trim, trimLeft_append hgap, trimLeft_eq_self henclosed.startsBlank, hright]

theorem splitOn_membersText {m : List Char} {ms : List (List Char)}
    (h : ∀ m' ∈ m :: ms, ',' ∉ m') :
    splitOn ',' (membersText (m :: ms)) = quoted m :: ms.map fun m' => ' ' :: quoted m' := by
  induction ms generalizing m with
  | nil =>
    have hfree : ',' ∉ quoted m := by
      rw [quoted, mem_literal_iff (by decide)]
      exact h m List.mem_cons_self
    rw [membersText_singleton, splitOn_eq_singleton hfree]
    rfl
  | cons m' ms ih =>
    rw [List.forall_mem_cons] at h
    have hfree : ',' ∉ quoted m := by
      rw [quoted, mem_literal_iff (by decide)]
      exact h.1
    have hspace : splitOn ',' ([' '] ++ membersText (m' :: ms)) =
        ([' '] ++ quoted m') :: ms.map fun m' => ' ' :: quoted m' :=
      splitOn_append (by decide) (ih h.2)
    have hcomma := (splitOn_mark ',' ([' '] ++ membersText (m' :: ms))).trans
      (congrArg (List.cons []) hspace)
    have hsplit := splitOn_append hfree hcomma
    rw [List.append_nil] at hsplit
    rw [membersText_cons_cons]
    exact hsplit

/-- Without commas in the members, the list is cut into its members. -/
theorem listMembers_listText {members : List (List Char)} (hne : members ≠ [])
    (hquote : ∀ m ∈ members, '\'' ∉ m) (hcomma : ∀ m ∈ members, ',' ∉ m) :
    listMembers (String.ofList (listText members)) = members.map String.ofList := by
  obtain ⟨m, ms, rfl⟩ := List.exists_cons_of_ne_nil hne
  have henclosed := isEnclosed_listText hquote
  have hright := henclosed.trimRight_append []
  rw [List.nil_append] at hright
  have htrim : trim (listText (m :: ms)) = listText (m :: ms) := by
    rw [trim, trimLeft_eq_self henclosed.startsBlank, hright]
  have hitem : ∀ m' ∈ m :: ms, ∀ gap, (∀ c ∈ gap, isBlank c = true) →
      String.ofList (unquote (trim (gap ++ quoted m'))) = String.ofList m' := by
    intro m' hm' gap hgap
    rw [trim_quoted (hquote m' hm') hgap, quoted, unquote_literal rfl m']
  have hends : ((listText (m :: ms)).head? == some '(' &&
      (listText (m :: ms)).getLast? == some ')') = true := by
    have hlast : (listText (m :: ms)).getLast? = some ')' := by
      rw [listText, ← List.cons_append]
      exact List.getLast?_concat
    rw [hlast]
    rfl
  have hinner : ((listText (m :: ms)).drop 1).dropLast = membersText (m :: ms) := by
    rw [listText, List.drop_succ_cons, List.drop_zero, List.dropLast_concat]
  have hfirst := hitem m List.mem_cons_self [] (by simp)
  rw [List.nil_append] at hfirst
  rw [listMembers, String.toList_ofList, htrim, if_pos hends, hinner, splitOn_membersText hcomma,
    List.map_cons, List.map_map, List.map_cons, hfirst]
  refine congrArg (List.cons _) (List.map_congr_left fun m' hm' => ?_)
  exact hitem m' (List.mem_cons_of_mem m hm') [' '] blanks_space.2

/-- No member has a comma, however the list is written. -/
theorem not_mem_of_mem_listMembers {value s : String} (h : s ∈ listMembers value) :
    ',' ∉ s.toList := by
  simp only [listMembers, List.mem_map] at h
  obtain ⟨item, hitem, rfl⟩ := h
  rw [String.toList_ofList]
  intro hmem
  exact (mem_of_mem_splitOn hitem).1 (trim_subset item (unquote_subset _ hmem))

/-! ## Verdicts -/

theorem holds_of_label {c : Condition} {r v : Value} {label : String}
    (hat : r.at? c.field = some v) (hlabel : v.label = .ok label) :
    (c.operator = .isIn → c.holds r = .ok ((listMembers c.value).contains label)) ∧
      (c.operator = .notIn → c.holds r = .ok (!(listMembers c.value).contains label)) := by
  constructor
  · intro hop
    simp only [Condition.holds, hat, Operator.holds, hop, hlabel]
    rfl
  · intro hop
    simp only [Condition.holds, hat, Operator.holds, hop, hlabel]
    rfl

/-- A record with one value, at the end of a path. -/
def recordAt (path : List String) (v : Value) : Value :=
  path.foldr (fun key inner => .record [(key, inner)]) v

theorem get?_recordAt (path : List String) (v : Value) :
    Value.get? path (recordAt path v) = some v := by
  induction path with
  | nil => exact Value.get?_nil v
  | cons key path ih =>
    have hkey : Keyed.get? key [(key, recordAt path v)] = some (recordAt path v) := if_pos rfl
    change (Keyed.get? key [(key, recordAt path v)]).bind (Value.get? path) = some v
    rw [hkey, Option.bind_some, ih]

/-- A comparison is read as one condition, without a date range; of a record with a label at the
field, the condition tells whether the label has a property. -/
def Selects (f : Path) (op : Operator) (value : List Char) (P : String → Prop) : Prop :=
  ∃ c, (readConditions (comparisonText f op value)).result = .ok ([c], none) ∧
    c.field = String.ofList f.chars ∧ c.operator = op ∧
    ∀ (r v : Value) (label : String), r.at? c.field = some v → v.label = .ok label →
      ∃ b, c.holds r = .ok b ∧ (b = true ↔ P label)

theorem not_selects_of_holds {f : Path} {op : Operator} {value : List Char} {P : String → Prop}
    {c : Condition} {r v : Value} {label : String} {b : Bool}
    (hread : (readConditions (comparisonText f op value)).result = .ok ([c], none))
    (hat : r.at? c.field = some v) (hlabel : v.label = .ok label) (hb : c.holds r = .ok b)
    (hwrong : ¬(b = true ↔ P label)) : ¬Selects f op value P := by
  rintro ⟨c', hread', -, -, hverdict⟩
  rw [hread] at hread'
  obtain rfl : c = c' := by simpa using hread'
  obtain ⟨b', hb', hiff⟩ := hverdict r v label hat hlabel
  rw [hb] at hb'
  obtain rfl : b = b' := Except.ok.inj hb'
  exact hwrong hiff

/-- A field and members for which a list means its members. -/
structure Agreeable (f : Path) (members : List (List Char)) : Prop where
  notDate : isDatePath f.chars = false
  notConjunction : f.token.isConjunction = false
  noComma : ∀ m ∈ members, ',' ∉ m
  noDuring : ∀ m ∈ members, ¬Mentions DuringText m
  noBetween : ¬Mentions BetweenText (listText members)

section List

variable {f : Path} {members : List (List Char)}

theorem readConditions_list (h : Agreeable f members) {op : Operator} (hop : op.takesList = true)
    (hfree : ∀ m ∈ members, '\'' ∉ m ∧ commaMark ∉ m ∧ '\n' ∉ m) :
    (readConditions (comparisonText f op (listText members))).result = .ok ([⟨String.ofList f.chars,
      op, String.ofList (listText members)⟩], none) := by
  have henclosed := isEnclosed_listText fun m hm => (hfree m hm).1
  have hshown : shownValue op (listText members) = listText members := if_pos hop
  have hmark : commaMark ∉ listText members :=
    not_mem_listText (by decide) fun m hm => (hfree m hm).2.1
  have hline : '\n' ∉ listText members :=
    not_mem_listText (by decide) fun m hm => (hfree m hm).2.2
  have hduring : ¬Mentions DuringText (listText members) := by
    rw [mentions_during_listText]
    rintro ⟨m, hm, hmention⟩
    exact h.noDuring m hm hmention
  have hne : shownValue op (listText members) ≠ [] := by
    rw [hshown]
    exact List.cons_ne_nil _ _
  rw [readConditions_comparisonText henclosed h.notDate h.notConjunction hne hmark hline hduring
    h.noBetween, hshown]

/-- A comma in a member keeps its label from being found. -/
theorem agreeable_of_reads {op : Operator} {c : Condition}
    (hfree : ∀ m ∈ members, '\'' ∉ m ∧ commaMark ∉ m ∧ '\n' ∉ m)
    (hread : (readConditions (comparisonText f op (listText members))).result = .ok ([c], none))
    (hfield : c.field = String.ofList f.chars)
    (hlabels : ∀ (r v : Value) (label : String), r.at? c.field = some v → v.label = .ok label →
      label ∈ members.map String.ofList → label ∈ listMembers c.value) : Agreeable f members := by
  have henclosed := isEnclosed_listText fun m hm => (hfree m hm).1
  obtain ⟨hdate, hconj, hduring, hbetween, -⟩ :=
    of_readConditions_comparisonText henclosed hread hfield
  have hmark : commaMark ∉ listText members :=
    not_mem_listText (by decide) fun m hm => (hfree m hm).2.1
  rw [mentions_during_listText, not_exists] at hduring
  refine ⟨hdate, hconj hmark, ?_, fun m hm hmention => hduring m ⟨hm, hmention⟩, hbetween⟩
  intro m hm hcomma
  have hmem := hlabels (recordAt (Value.segments c.field) (.text (String.ofList m)))
    (.text (String.ofList m)) (String.ofList m) (get?_recordAt _ _) rfl
    (List.mem_map_of_mem hm)
  have hlacks := not_mem_of_mem_listMembers hmem
  rw [String.toList_ofList] at hlacks
  exact hlacks hcomma

/-- A list of literals means membership, for records and in both directions, exactly if the field
is neither a date nor a conjunction, no member has a comma, and no date directive is mentioned. -/
theorem selects_list_iff (f : Path) (members : List (List Char)) (hne : members ≠ [])
    (hfree : ∀ m ∈ members, '\'' ∉ m ∧ commaMark ∉ m ∧ '\n' ∉ m) :
    (Selects f .isIn (listText members) (fun label => label ∈ members.map String.ofList) ↔
      Agreeable f members) ∧
    (Selects f .notIn (listText members) (fun label => label ∉ members.map String.ofList) ↔
      Agreeable f members) := by
  have hmembers : Agreeable f members →
      listMembers (String.ofList (listText members)) = members.map String.ofList := fun h =>
    listMembers_listText hne (fun m hm => (hfree m hm).1) h.noComma
  refine ⟨⟨?_, fun h => ?_⟩, ⟨?_, fun h => ?_⟩⟩
  · rintro ⟨c, hread, hfield, hop, hverdict⟩
    refine agreeable_of_reads hfree hread hfield fun r v label hat hlabel hmem => ?_
    obtain ⟨b, hb, hiff⟩ := hverdict r v label hat hlabel
    rw [(holds_of_label hat hlabel).1 hop] at hb
    have htrue := hiff.mpr hmem
    rw [← Except.ok.inj hb] at htrue
    simpa using htrue
  · refine ⟨_, readConditions_list h rfl hfree, rfl, rfl, fun r v label hat hlabel => ?_⟩
    refine ⟨_, (holds_of_label hat hlabel).1 rfl, ?_⟩
    rw [hmembers h]
    simp
  · rintro ⟨c, hread, hfield, hop, hverdict⟩
    refine agreeable_of_reads hfree hread hfield fun r v label hat hlabel hmem => ?_
    obtain ⟨b, hb, hiff⟩ := hverdict r v label hat hlabel
    rw [(holds_of_label hat hlabel).2 hop] at hb
    by_contra hlacks
    have htrue : b = true := by
      rw [← Except.ok.inj hb]
      simpa using hlacks
    exact hiff.mp htrue hmem
  · refine ⟨_, readConditions_list h rfl hfree, rfl, rfl, fun r v label hat hlabel => ?_⟩
    refine ⟨_, (holds_of_label hat hlabel).2 rfl, ?_⟩
    rw [hmembers h]
    simp

end List

/-- A parenthesis, blanks, a double quote and nothing at all. -/
def oddMembers : List (List Char) := ["a) OR (b".toList, "  c ".toList, "\"d".toList, []]

theorem selects_oddMembers :
    oddMembers ≠ [] ∧ (∀ m ∈ oddMembers, '\'' ∉ m ∧ commaMark ∉ m ∧ '\n' ∉ m) ∧
      Selects nameField .isIn (listText oddMembers)
        (fun label => label ∈ oddMembers.map String.ofList) ∧
      Selects nameField .notIn (listText oddMembers)
        (fun label => label ∉ oddMembers.map String.ofList) := by
  have hne : oddMembers ≠ [] := by decide
  have hfree : ∀ m ∈ oddMembers, '\'' ∉ m ∧ commaMark ∉ m ∧ '\n' ∉ m := by decide
  have hagreeable : Agreeable nameField oddMembers := {
    notDate := by decide
    notConjunction := by decide
    noComma := by decide
    noDuring := by decide +kernel
    noBetween := by decide +kernel }
  obtain ⟨hin, hnotIn⟩ := selects_list_iff nameField oddMembers hne hfree
  exact ⟨hne, hfree, hin.mpr hagreeable, hnotIn.mpr hagreeable⟩

/-- The record of a campaign with a comma in its name. -/
def commaCampaign : Value := .record [("campaign", .record [("name", .text "a,b")])]

/-- A name with a comma is not found in a list of just this name. -/
theorem not_selects_comma :
    ¬Selects nameField .isIn (listText ["a,b".toList]) (fun label => label ∈ ["a,b"]) ∧
      ¬Selects nameField .notIn (listText ["a,b".toList]) (fun label => label ∉ ["a,b"]) := by
  have hat : commaCampaign.at? "campaign.name" = some (.text "a,b") := by rfl
  constructor
  · have hread : (readConditions (comparisonText nameField .isIn
        (listText ["a,b".toList]))).result =
          .ok ([⟨"campaign.name", .isIn, "('a,b')"⟩], none) := by decide +kernel
    exact not_selects_of_holds (b := false) hread hat rfl rfl (by simp)
  · have hread : (readConditions (comparisonText nameField .notIn
        (listText ["a,b".toList]))).result =
          .ok ([⟨"campaign.name", .notIn, "('a,b')"⟩], none) := by decide +kernel
    exact not_selects_of_holds (b := true) hread hat rfl rfl (by simp)

end AdSearch.Proofs.Query.Membership
