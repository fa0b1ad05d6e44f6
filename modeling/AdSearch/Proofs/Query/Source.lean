import AdSearch.Proofs.Query.Heading
import AdSearch.Proofs.Query.Soundness

/-!
# The source of a query

The source of a query is the identifier that its own `FROM` names, the one at which its list of
fields ends.  If that `FROM` names none, a later one is looked for, wherever it stands, so a query
without a source of its own is refused exactly when no later `FROM` names one.
-/

namespace AdSearch.Proofs.Query.Source

open AdSearch.Text AdSearch.Query AdSearch.Log AdSearch.Proofs.Outcome AdSearch.Proofs.Text.Blank
  AdSearch.Proofs.Text.Scan AdSearch.Proofs.Query.Heading AdSearch.Proofs.Query.Mention
  AdSearch.Proofs.Query.Tolerance AdSearch.Proofs.Query.Soundness

/-! ## Places of a query text -/

/-- Blanks and then `FROM`, which is a word; the rest of the text starts with it. -/
def EndsFields (here rest : List Char) : Prop :=
  ∃ gap spelled after, here = gap ++ rest ∧ rest = spelled ++ after ∧ Blanks gap ∧
    sameLetters Keyword.fromWord spelled = true ∧ startsWord after = false

/-- The word `SELECT`, a list of fields and the first `FROM` after the first character of the list,
on which the rest of the text follows. -/
def ListsFields (afterWord : Bool) (here : List Char) (read : List Char × List Char) : Prop :=
  afterWord = false ∧ ∃ select gap c before there,
    here = select ++ (gap ++ c :: (before ++ there)) ∧
    sameLetters Keyword.selectWord select = true ∧ Blanks gap ∧ isBlank c = false ∧
    First (fun _ => EndsFields) (isWord c) before there read.2 ∧ read.1 = c :: before

/-- The word `FROM`, blanks and an identifier, which is taken as a whole, and the text after it. -/
def NamesSource (afterWord : Bool) (here : List Char) (read : List Char × List Char) : Prop :=
  afterWord = false ∧ ∃ spelled gap, here = spelled ++ (gap ++ (read.1 ++ read.2)) ∧
    sameLetters Keyword.fromWord spelled = true ∧ Blanks gap ∧ IsRun read.1 ∧
    startsWord read.2 = false

/-- The list of fields of a text ends at the `FROM` with which the rest of the text starts. -/
def ClosesFields (cs fields rest : List Char) : Prop :=
  ∃ before here, cs = before ++ here ∧ First ListsFields false before here (fields, rest)

/-- The identifier at the first `FROM` of a text that one follows. -/
def FirstSource (cs source : List Char) : Prop :=
  ∃ before here rest, cs = before ++ here ∧ First NamesSource false before here (source, rest)

/-- The identifier at the `FROM` with which a text starts. -/
def OwnSource (here source : List Char) : Prop :=
  ∃ rest, NamesSource false here (source, rest)

/-- An identifier follows some `FROM` of a text. -/
def AnySource (cs : List Char) : Prop :=
  ∃ before here read, cs = before ++ here ∧ NamesSource (endsWord false before) here read

/-! ## Reading the clauses -/

theorem opening?_eq_some_iff {keyword here rest : List Char} {afterWord : Bool} :
    opening? keyword afterWord here = some rest ↔ afterWord = false ∧
      ∃ spelled, here = spelled ++ rest ∧ sameLetters keyword spelled = true := by
  constructor
  · intro h
    cases afterWord with
    | true => cases h
    | false =>
      obtain ⟨⟨spelled, after⟩, hletters, rfl⟩ := Option.map_eq_some_iff.mp h
      exact ⟨rfl, spelled, exists_of_letters? hletters⟩
  · rintro ⟨rfl, spelled, rfl, hspelled⟩
    rw [opening?, if_neg (by simp), letters?_append hspelled]
    rfl

theorem endOfFields?_eq_some_iff {here rest : List Char} :
    endOfFields? here = some rest ↔ EndsFields here rest := by
  constructor
  · intro h
    obtain ⟨rest', hblanks, hmap⟩ := Option.bind_eq_some_iff.mp h
    obtain ⟨after, hclosing, rfl⟩ := Option.map_eq_some_iff.mp hmap
    obtain ⟨⟨spelled, after'⟩, hletters, hstarts⟩ := Option.bind_eq_some_iff.mp hclosing
    obtain ⟨gap, hgap, rfl, -⟩ := exists_of_blanks? hblanks
    obtain ⟨rfl, hfrom⟩ := exists_of_letters? hletters
    refine ⟨gap, spelled, after', rfl, rfl, hgap, hfrom, ?_⟩
    cases hword : startsWord after' with
    | false => rfl
    | true => simp [hword] at hstarts
  · rintro ⟨gap, spelled, after, rfl, rfl, hgap, hfrom, hafter⟩
    have hstarts := startsBlank_of_isKeyword (by decide) hfrom after
    rw [endOfFields?, blanks?_append hgap, trimLeft_eq_self hstarts, Option.bind_some, closing?,
      letters?_append hfrom]
    simp [hafter]

theorem find?_endOfFields?_iff {afterWord : Bool} {cs before rest : List Char} :
    find? (fun _ here => endOfFields? here) afterWord cs = some (before, rest) ↔
      ∃ there, cs = before ++ there ∧
        First (fun _ => EndsFields) afterWord before there rest :=
  find?_eq_some_iff fun _ _ _ => endOfFields?_eq_some_iff

theorem fieldsFrom?_eq_some_iff (afterWord : Bool) (here : List Char)
    (read : List Char × List Char) :
    fieldsFrom? afterWord here = some read ↔ ListsFields afterWord here read := by
  constructor
  · intro h
    simp only [fieldsFrom?, Option.bind_eq_bind, Option.bind_eq_some_iff] at h
    obtain ⟨afterSelect, hopening, afterGap, hblanks, hread⟩ := h
    obtain ⟨hafter, select, rfl, hselect⟩ := opening?_eq_some_iff.mp hopening
    obtain ⟨gap, hgap, rfl, hstarts⟩ := exists_of_blanks? hblanks
    cases afterGap with
    | nil => cases hread
    | cons c cs =>
      obtain ⟨⟨before, rest⟩, hfind, hpair⟩ := Option.bind_eq_some_iff.mp hread
      obtain rfl := Option.some.inj hpair
      obtain ⟨there, rfl, hfirst⟩ := find?_endOfFields?_iff.mp hfind
      exact ⟨hafter, select, gap, c, before, there, rfl, hselect, hgap, hstarts, hfirst, rfl⟩
  · rintro ⟨hafter, select, gap, c, before, there, rfl, hselect, hgap, hc, hfirst, hfields⟩
    have hopening : opening? Keyword.selectWord afterWord
        (select ++ (gap ++ c :: (before ++ there))) = some (gap ++ c :: (before ++ there)) :=
      opening?_eq_some_iff.mpr ⟨hafter, select, rfl, hselect⟩
    have hstarts : startsBlank (c :: (before ++ there)) = false := hc
    have hblanks := blanks?_append hgap (c :: (before ++ there))
    rw [trimLeft_eq_self hstarts] at hblanks
    have hfind := find?_endOfFields?_iff.mpr ⟨there, rfl, hfirst⟩
    simp only [fieldsFrom?, hopening, hblanks, hfind, Option.bind_eq_bind, Option.bind_some]
    rw [← hfields]

theorem selectClause?_eq_some_iff {cs fields rest : List Char} :
    selectClause? cs = some (fields, rest) ↔ ClosesFields cs fields rest := by
  rw [selectClause?_eq, Option.map_eq_some_iff]
  constructor
  · rintro ⟨⟨before, read⟩, hfind, rfl⟩
    exact ⟨before, (find?_eq_some_iff fieldsFrom?_eq_some_iff).mp hfind⟩
  · rintro ⟨before, hfirst⟩
    exact ⟨_, (find?_eq_some_iff fieldsFrom?_eq_some_iff).mpr hfirst, rfl⟩

/-- An identifier after `FROM`, and the text after it. -/
def source? (afterWord : Bool) (here : List Char) : Option (List Char × List Char) := do
  let rest ← opening? Keyword.fromWord afterWord here
  word? (← blanks? rest)

theorem sourceClause?_eq (cs : List Char) :
    sourceClause? cs = (find? source? false cs).map (·.2) := rfl

theorem source?_eq_some_iff (afterWord : Bool) (here : List Char) (read : List Char × List Char) :
    source? afterWord here = some read ↔ NamesSource afterWord here read := by
  obtain ⟨source, rest⟩ := read
  simp only [source?, Option.bind_eq_bind, Option.bind_eq_some_iff]
  constructor
  · rintro ⟨afterFrom, hopening, afterGap, hblanks, hword⟩
    obtain ⟨hafter, spelled, rfl, hfrom⟩ := opening?_eq_some_iff.mp hopening
    obtain ⟨gap, hgap, rfl, -⟩ := exists_of_blanks? hblanks
    obtain ⟨hne, hwords, rfl⟩ := exists_of_word? hword
    exact ⟨hafter, spelled, gap, rfl, hfrom, hgap, ⟨hne, hwords⟩, startsWord_of_word? hword⟩
  · rintro ⟨rfl, spelled, gap, rfl, hfrom, hgap, ⟨hne, hwords⟩, hrest⟩
    have hstarts : startsBlank (source ++ rest) = false := by
      obtain ⟨c, source, rfl⟩ := List.exists_cons_of_ne_nil hne
      exact isBlank_of_isWord (hwords c List.mem_cons_self)
    refine ⟨_, opening?_eq_some_iff.mpr ⟨rfl, spelled, rfl, hfrom⟩, _, blanks?_append hgap _, ?_⟩
    rw [trimLeft_eq_self hstarts]
    exact word?_append hne hwords hrest

theorem sourceClause?_eq_some_iff {cs source : List Char} :
    (∃ rest, sourceClause? cs = some (source, rest)) ↔ FirstSource cs source := by
  simp only [sourceClause?_eq, Option.map_eq_some_iff]
  constructor
  · rintro ⟨rest, ⟨before, read⟩, hfind, rfl⟩
    obtain ⟨here, hcs, hfirst⟩ := (find?_eq_some_iff source?_eq_some_iff).mp hfind
    exact ⟨before, here, rest, hcs, hfirst⟩
  · rintro ⟨before, here, rest, hcs, hfirst⟩
    exact ⟨rest, _, (find?_eq_some_iff source?_eq_some_iff).mpr ⟨here, hcs, hfirst⟩, rfl⟩

theorem isSome_source?_iff (here : List Char) :
    (source? false here).isSome = true ↔ ∃ source, OwnSource here source := by
  rw [Option.isSome_iff_exists]
  constructor
  · rintro ⟨⟨source, rest⟩, hread⟩
    exact ⟨source, rest, (source?_eq_some_iff _ _ _).mp hread⟩
  · rintro ⟨source, rest, hnames⟩
    exact ⟨_, (source?_eq_some_iff _ _ _).mpr hnames⟩

instance (here : List Char) : Decidable (∃ source, OwnSource here source) :=
  decidable_of_iff _ (isSome_source?_iff here)

theorem isSome_sourceClause?_iff (cs : List Char) :
    (sourceClause? cs).isSome = true ↔ AnySource cs := by
  rw [sourceClause?_eq, Option.isSome_map]
  constructor
  · intro h
    obtain ⟨⟨before, read⟩, hfind⟩ := Option.isSome_iff_exists.mp h
    obtain ⟨here, rfl, hread⟩ := exists_of_find? hfind
    exact ⟨before, here, read, rfl, (source?_eq_some_iff _ _ _).mp hread⟩
  · rintro ⟨before, here, read, rfl, hnames⟩
    apply isSome_find?_append
    exact Option.isSome_of_eq_some ((source?_eq_some_iff _ _ _).mpr hnames)

/-- A text that starts with `FROM` and an identifier has no other first source. -/
theorem FirstSource.own {here source own : List Char} (h : FirstSource here source)
    (hown : OwnSource here own) : OwnSource here source := by
  obtain ⟨before, there, rest, rfl, hholds, hnot⟩ := h
  cases before with
  | nil => exact ⟨rest, hholds⟩
  | cons c before =>
    -- the text itself would be an earlier place
    obtain ⟨rest', hnames⟩ := hown
    exact absurd ⟨_, hnames⟩ (hnot [] c before rfl)

/-! ## The query -/

/-- A source comes from the `FROM` with which a text starts: if it names none, the clause is
missing. -/
structure KeepsToFrom (here : List Char) (result : Except SearchError AdSearch.Query) : Prop where
  own : ∀ q, result = .ok q → OwnSource here q.source.toList
  missing : (¬∃ source, OwnSource here source) → result = .error (.query .missingFrom)

variable {s : String} {fields here : List Char}

theorem parse_of_no_fields (hselect : selectClause? (collapse s.toList) = some (fields, here))
    (hnames : fieldNames fields = []) : (parse s).result = .error (.query .noFields) := by
  rw [parse, readCollapsed, hselect]
  dsimp only
  rw [hnames]
  rfl

theorem parse_of_no_source (hselect : selectClause? (collapse s.toList) = some (fields, here))
    (hnames : fieldNames fields ≠ []) (hsource : sourceClause? here = none) :
    (parse s).result = .error (.query .missingFrom) := by
  rw [parse, readCollapsed, hselect]
  dsimp only
  rw [if_neg (by simpa using hnames), hsource]
  rfl

/-- With fields and a source, no clause is at fault. -/
theorem parse_ne_query (hselect : selectClause? (collapse s.toList) = some (fields, here))
    (hnames : fieldNames fields ≠ []) (hsource : (sourceClause? here).isSome = true)
    (fault : QueryFault) : (parse s).result ≠ .error (.query fault) := by
  intro hfault
  obtain ⟨⟨source, rest⟩, hsource⟩ := Option.isSome_iff_exists.mp hsource
  rcases parse_cases s with ⟨hnone, -⟩ | ⟨cs, -, hok, hbad⟩
  · simp [conditionsText?, hselect, hnames, hsource] at hnone
  -- only the conditions are left, and they fail in another way
  cases hread : (readConditions cs).result with
  | ok answer =>
    obtain ⟨q, hq⟩ := hok answer.1 answer.2 hread
    rw [hq] at hfault
    cases hfault
  | error e =>
    obtain ⟨spelled, rfl⟩ := readConditions_eq_error hread
    rw [hbad _ hread] at hfault
    cases hfault

theorem firstSource_of_parse (hselect : selectClause? (collapse s.toList) = some (fields, here))
    {q : AdSearch.Query} (hq : (parse s).result = .ok q) : FirstSource here q.source.toList := by
  obtain ⟨fields', here', source, rest, found, range, hselect', -, hsource, -, rfl⟩ :=
    exists_of_parse hq
  obtain ⟨-, rfl⟩ := Prod.mk.inj (Option.some.inj (hselect'.symm.trans hselect))
  rw [String.toList_ofList]
  exact sourceClause?_eq_some_iff.mp ⟨rest, hsource⟩

theorem keepsToFrom_iff (hselect : selectClause? (collapse s.toList) = some (fields, here))
    (hnames : fieldNames fields ≠ []) :
    KeepsToFrom here (parse s).result ↔ (∃ source, OwnSource here source) ∨ ¬AnySource here := by
  constructor
  · intro h
    by_cases hown : ∃ source, OwnSource here source
    · exact Or.inl hown
    · refine Or.inr fun hany => ?_
      exact parse_ne_query hselect hnames ((isSome_sourceClause?_iff here).mpr hany) .missingFrom
        (h.missing hown)
  · rintro (⟨own, hown⟩ | hnone)
    · exact ⟨fun q hq => (firstSource_of_parse hselect hq).own hown,
        fun habsent => absurd ⟨own, hown⟩ habsent⟩
    · have hsource : sourceClause? here = none := by
        rwa [← isSome_sourceClause?_iff, Option.not_isSome_iff_eq_none] at hnone
      have hmissing := parse_of_no_source hselect hnames hsource
      refine ⟨fun q hq => ?_, fun _ => hmissing⟩
      rw [hmissing] at hq
      cases hq

/-- A query that is read shows the identifier of the first `FROM` that has one, from the `FROM` on
at which its list of fields ends.  It keeps to that `FROM` exactly when an identifier stands there,
or at no later one either; a list without fields is refused before a source is looked for. -/
theorem source_kept_iff (s : String) :
    (∀ q, (parse s).result = .ok q →
      ∃ fields here, ClosesFields (collapse s.toList) fields here) ∧
    ∀ fields here, ClosesFields (collapse s.toList) fields here →
      (∀ q, (parse s).result = .ok q → FirstSource here q.source.toList) ∧
      (fieldNames fields = [] → (parse s).result = .error (.query .noFields)) ∧
      (fieldNames fields ≠ [] → (KeepsToFrom here (parse s).result ↔
        (∃ source, OwnSource here source) ∨ ¬AnySource here)) := by
  constructor
  · intro q hq
    obtain ⟨fields, here, -, -, -, -, hselect, -⟩ := exists_of_parse hq
    exact ⟨fields, here, selectClause?_eq_some_iff.mp hselect⟩
  · intro fields here hcloses
    have hselect := selectClause?_eq_some_iff.mpr hcloses
    exact ⟨fun q hq => firstSource_of_parse hselect hq, parse_of_no_fields hselect,
      keepsToFrom_iff hselect⟩

/-- A `FROM` without an identifier, and a copy of one in a literal. -/
def copiedText : String :=
  "SELECT campaign.id FROM 'x' WHERE campaign.name = 'copied FROM campaign'"

/-- The source is copied from a literal. -/
theorem not_keepsToFrom_copied :
    ClosesFields (collapse copiedText.toList) "campaign.id".toList
        "FROM 'x' WHERE campaign.name = 'copied FROM campaign'".toList ∧
      (parse copiedText).result = .ok ⟨["campaign.id"], "campaign", [], none⟩ ∧
      ¬KeepsToFrom "FROM 'x' WHERE campaign.name = 'copied FROM campaign'".toList
        (parse copiedText).result := by
  have hread : (parse copiedText).result = .ok ⟨["campaign.id"], "campaign", [], none⟩ := by
    decide +kernel
  have hown : ¬∃ source,
      OwnSource "FROM 'x' WHERE campaign.name = 'copied FROM campaign'".toList source := by
    decide +kernel
  refine ⟨selectClause?_eq_some_iff.mp (by decide +kernel), hread, fun h => hown ?_⟩
  exact ⟨_, h.own _ hread⟩

end AdSearch.Proofs.Query.Source
