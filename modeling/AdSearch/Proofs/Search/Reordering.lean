import AdSearch.Proofs.Query.Meaning
import AdSearch.Proofs.Record.Projection
import AdSearch.Proofs.Search.Paging
import Mathlib.Data.List.Forall2

/-!
# Queries in another order

The fields, the conditions and the date range of a query may stand in any order.  As long as no
condition fails on a record, a search for the same in another order shows the same rows in the same
order, and cuts them into the same pages.
-/

namespace AdSearch.Proofs.Search.Reordering

open AdSearch.Proofs.Outcome AdSearch.Proofs.Query AdSearch.Proofs.Query.Draft
  AdSearch.Proofs.Record.Projection AdSearch.Proofs.Search.Paging

variable {settings : Settings} {account : Account} {today : Date} {cs cs' : List Condition}
  {records : List Value} {r : Value}

/-! ## Conditions -/

theorem holdsAll_eq_true_iff (h : ∀ c ∈ cs, ∃ b, c.holds r = .ok b) :
    ∃ b, holdsAll r cs = .ok b ∧ (b = true ↔ ∀ c ∈ cs, c.holds r = .ok true) := by
  induction cs with
  | nil => exact ⟨true, rfl, by simp⟩
  | cons c cs ih =>
    obtain ⟨first, hfirst⟩ := h c List.mem_cons_self
    obtain ⟨rest, hrest, hiff⟩ := ih fun c' hc' => h c' (List.mem_cons_of_mem c hc')
    rw [holdsAll, hfirst, ok_bind]
    cases first with
    | true => exact ⟨rest, hrest, by simp [hfirst, hiff]⟩
    | false => exact ⟨false, rfl, by simp [hfirst]⟩

/-- Whether a record satisfies conditions that can all be decided on it does not depend on their
order. -/
theorem holdsAll_of_perm (hperm : cs.Perm cs') (h : ∀ c ∈ cs, ∃ b, c.holds r = .ok b) :
    holdsAll r cs = holdsAll r cs' := by
  have h' : ∀ c ∈ cs', ∃ b, c.holds r = .ok b := fun c hc => h c (hperm.mem_iff.mpr hc)
  obtain ⟨b, hb, hiff⟩ := holdsAll_eq_true_iff h
  obtain ⟨b', hb', hiff'⟩ := holdsAll_eq_true_iff h'
  have hsame : b = b' := by
    rw [Bool.eq_iff_iff, hiff, hiff']
    exact ⟨fun hall c hc => hall c (hperm.mem_iff.mpr hc),
      fun hall c hc => hall c (hperm.mem_iff.mp hc)⟩
  rw [hb, hb', hsame]

theorem filterRecords_of_perm (hperm : cs.Perm cs')
    (h : ∀ r ∈ records, ∀ c ∈ cs, ∃ b, c.holds r = .ok b) :
    filterRecords cs records = filterRecords cs' records := by
  induction records with
  | nil => rfl
  | cons r records ih =>
    have hfirst := holdsAll_of_perm hperm (h r List.mem_cons_self)
    have hrest := ih fun r' hr' => h r' (List.mem_cons_of_mem r hr')
    rw [filterRecords, filterRecords, hfirst, hrest]

/-! ## Rows -/

/-- Rows that show the same, one by one. -/
def SameRows (rows rows' : List Value) : Prop := List.Forall₂ SameMapping rows rows'

theorem sameRows_project {fields fields' : List String} (h : fields.Perm fields')
    (records : List Value) : SameRows (project fields records) (project fields' records) := by
  rw [SameRows, project, project, List.forall₂_map_left_iff, List.forall₂_map_right_iff,
    List.forall₂_same]
  intro r _
  exact (tracks_projectedFields r fields').sameMapping (tracks_projectedFields r fields)
    fun _ => h.mem_iff

theorem agrees_rows {q q' : Query} {window : Window} (hfields : q.selectFields.Perm q'.selectFields)
    (hsource : q.source = q'.source) (hperm : q.conditions.Perm q'.conditions)
    (h : ∀ records, account.list q.source window = .ok records →
      ∀ r ∈ records, ∀ c ∈ q.conditions, ∃ b, c.holds r = .ok b) :
    Agrees SameRows (account.rows q window) (account.rows q' window) := by
  unfold Account.rows
  rw [← hsource]
  refine agrees_bind fun records hrecords => ?_
  rw [filterRecords_of_perm hperm (h records hrecords)]
  refine agrees_bind fun kept _ => ?_
  exact .ok (sameRows_project hfields kept)

/-! ## Pages -/

theorem agrees_paginate {rows rows' : List Value} (h : SameRows rows rows') (size : Int)
    (token : Option String) :
    Agrees (fun cut cut' : Page Value => SameRows cut.items cut'.items ∧
      cut.nextToken = cut'.nextToken ∧ cut.totalCount = cut'.totalCount)
      (paginate rows size token) (paginate rows' size token) := by
  rw [paginate, paginate]
  split
  · exact .error _
  · refine agrees_bind fun offset _ => ?_
    refine .ok ⟨List.forall₂_take _ (List.forall₂_drop _ h), ?_, h.length_eq⟩
    rw [h.length_eq]

/-! ## Searches -/

/-- Pages that show the same rows in the same order. -/
structure SamePage (page page' : SearchPage) : Prop where
  results : SameRows page.results page'.results
  nextToken : page.nextToken = page'.nextToken
  totalCount : page.totalCount = page'.totalCount

/-- No condition of a query fails on a record that a search for it lists. -/
def Decides (settings : Settings) (account : Account) (today : Date) (q : Query) : Prop :=
  ∀ window records,
    (resolveWindow q.dateRange today settings.defaultWindowDays).result = .ok window →
    account.list q.source window = .ok records →
    ∀ r ∈ records, ∀ c ∈ q.conditions, ∃ b, c.holds r = .ok b

theorem result_search {request : SearchRequest} {q : Query}
    (h : Query.parse request.query = ⟨[], .ok q⟩) :
    (search settings account today request).result = (do
      let size ← settings.pageSize request.pageSize
      let _ ← Source.ofName q.source
      let window ← (resolveWindow q.dateRange today settings.defaultWindowDays).result
      let rows ← account.rows q window
      let page ← paginate rows size request.pageToken
      .ok ⟨page.items, page.nextToken, page.totalCount, q.fieldMask⟩) := by
  simp only [search, result_bind, Log.Logged.result_ofExcept, h, ok_bind, result_write]
  rfl

/-- A search for the same in another order, in any words that spell it, has the same outcome: the
same error, or a page of the same size with the same rows. -/
theorem reordered_searches_agree {d d' : Draft} {s s' : String} (hs : d.Spells s)
    (hs' : d'.Spells s') (h : Reorders d d') (hdecides : Decides settings account today d.query)
    (size : Option Int) (token : Option String) :
    Agrees SamePage (search settings account today ⟨s, size, token⟩).result
      (search settings account today ⟨s', size, token⟩).result := by
  rw [result_search (parse_of_spells hs), result_search (parse_of_spells hs'), ← h.source,
    ← h.dateRange]
  refine agrees_bind fun count _ => ?_
  refine agrees_bind fun source _ => ?_
  refine agrees_bind fun window hwindow => ?_
  have hrows := agrees_rows h.fields h.source h.conditions fun records =>
    hdecides window records hwindow
  refine hrows.bind ?_
  intro rows rows' _ hsame
  refine (agrees_paginate hsame count token).bind ?_
  rintro cut cut' - ⟨hitems, hnext, htotal⟩
  exact .ok ⟨hitems, hnext, htotal⟩

/-! ## Two orders -/

def idPath : Path := ⟨"campaign.id".toList, List.all_eq_true.mp (by decide), by decide⟩

def namePath : Path := ⟨"campaign.name".toList, List.all_eq_true.mp (by decide), by decide⟩

theorem isMark_apostrophe : Query.isMark '\'' = true := rfl

/-- A name that is not `x y`. -/
def notNamed : Conjunct := .comparison {
  field := namePath
  operator := .symbol .ne (by decide)
  operand := .plain ⟨.quoted {
      mark := '\''
      inner := ['x', ' ', 'y']
      isMark := isMark_apostrophe
      closes := by decide
      isSpaced := by decide
      noDuring := by decide
      noSplit := by decide
      noBetween := by decide }, []⟩
    (by intro m hm; rw [List.mem_singleton.mp hm]; rfl) (by simp)
  notDate := by decide
  notConjunction := by decide
  listed := by intro h; cases h
  value_ne_nil := by decide }

/-- The days of this year. -/
def thisYear : Conjunct := .during {
  field := ⟨"segments.date".toList, List.all_eq_true.mp (by decide), by decide⟩
  isDate := by decide
  word := ⟨"during".toList, by decide⟩
  keyword := ⟨"THIS_YEAR".toList, by decide, List.all_eq_true.mp (by decide)⟩
  stays := by decide }

/-- A draft with two fields and two conjuncts. -/
def pairDraft (first second : Path) (comma : Comma)
    (hsecond : Query.closing? Keyword.fromWord second.chars = none) (clause : Clause) :
    Draft where
  word := ⟨"select".toList, by decide⟩
  first := first
  rest := [(comma, second)]
  fromWord := ⟨"from".toList, by decide⟩
  source := ⟨"campaign".toList, by decide, List.all_eq_true.mp (by decide)⟩
  clause := some clause
  stays := by
    intro entry hentry
    rw [List.mem_singleton.mp hentry]
    exact hsecond

/-- The name first, then the days. -/
def nameFirst : Draft :=
  pairDraft idPath namePath ⟨false, true⟩ (by decide) {
    word := ⟨"where".toList, by decide⟩
    first := notNamed
    rest := [(.and ⟨"and".toList, by decide⟩, thisYear)]
    ending := none
    stays := by
      intro entry hentry
      rw [List.mem_singleton.mp hentry]
      decide
    during_le_one := by decide
    between_le_one := by decide }

/-- The days first, then the name. -/
def daysFirst : Draft :=
  pairDraft namePath idPath ⟨false, false⟩ (by decide) {
    word := ⟨"where".toList, by decide⟩
    first := thisYear
    rest := [(.comma ⟨false, true⟩, notNamed)]
    ending := none
    stays := by
      intro entry hentry
      rw [List.mem_singleton.mp hentry]
      decide
    during_le_one := by decide
    between_le_one := by decide }

theorem reorders_daysFirst : Reorders nameFirst daysFirst where
  fields := List.Perm.swap _ _ _
  source := rfl
  meanings := List.Perm.swap _ _ _

def nameFirstText : String :=
  "select campaign.id, campaign.name from campaign where campaign.name != 'x  y' " ++
    "and segments.date during THIS_YEAR"

def daysFirstText : String :=
  " select campaign.name,campaign.id from campaign where segments.date during THIS_YEAR, " ++
    "campaign.name != 'x y'"

theorem decides_nameFirst : Decides Settings.default threeCampaigns someDay nameFirst.query := by
  intro window records hwindow hrecords
  cases hwindow
  cases hrecords
  intro r hr c hc
  rw [List.mem_singleton.mp hc]
  simp only [List.mem_cons, List.not_mem_nil, or_false] at hr
  rcases hr with rfl | rfl | rfl <;> exact ⟨true, rfl⟩

theorem nameFirst_agrees_daysFirst :
    nameFirst.Spells nameFirstText ∧ daysFirst.Spells daysFirstText ∧
      Reorders nameFirst daysFirst ∧
      Decides Settings.default threeCampaigns someDay nameFirst.query ∧
      Agrees SamePage
        (search Settings.default threeCampaigns someDay ⟨nameFirstText, some 2, none⟩).result
        (search Settings.default threeCampaigns someDay ⟨daysFirstText, some 2, none⟩).result := by
  have hname : nameFirst.Spells nameFirstText := ⟨[], by decide +kernel, Or.inl rfl⟩
  have hdays : daysFirst.Spells daysFirstText := ⟨[], by decide +kernel, Or.inl rfl⟩
  exact ⟨hname, hdays, reorders_daysFirst, decides_nameFirst,
    reordered_searches_agree hname hdays reorders_daysFirst decides_nameFirst (some 2) none⟩

/-- A search among three campaigns. -/
def under (conditions : String) : Except SearchError SearchPage :=
  (search Settings.default threeCampaigns someDay
    ⟨"SELECT a FROM campaign WHERE " ++ conditions, none, none⟩).result

theorem count_of_agrees {x y : Except SearchError SearchPage} (h : Agrees SamePage x y) :
    x.map (·.totalCount) = y.map (·.totalCount) := by
  cases h with
  | ok hsame => exact congrArg Except.ok hsame.totalCount
  | error e => rfl

/-- Beyond the drafts, the order counts: where a literal holds a directive with a keyword, or the
start of one with two dates; where it holds a null character, behind which an unknown operator is
read; and where the first date of a directive holds another directive. -/
theorem order_counts :
    ¬Agrees SamePage (under "b = 'date DURING x' AND date DURING y")
      (under "date DURING y AND b = 'date DURING x'") ∧
    ¬Agrees SamePage (under "b = 'date BETWEEN ' AND c = ' AND ' AND d = 'x'")
      (under "c = ' AND ' AND b = 'date BETWEEN ' AND d = 'x'") ∧
    ¬Agrees SamePage (under "b = '\x00x \u0130N y' AND c = '\x00x L\u0130KE y'")
      (under "c = '\x00x L\u0130KE y' AND b = '\x00x \u0130N y'") ∧
    ¬Agrees SamePage (under "date BETWEEN 'date DURING x' AND '' AND date DURING y")
      (under "date DURING y AND date BETWEEN 'date DURING x' AND ''") := by
  refine ⟨?_, ?_, ?_, ?_⟩ <;>
  · intro h
    exact absurd (count_of_agrees h) (by decide +kernel)

end AdSearch.Proofs.Search.Reordering
