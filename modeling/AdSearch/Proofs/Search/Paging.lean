import AdSearch.Proofs.Page.Token
import AdSearch.Search
import Mathlib.Data.List.Basic
import Mathlib.Tactic.Common

/-!
# Walking through the pages of a search

Every page is a cut of one list of rows, which the query, the account and the day decide.  A step
shows the rows from its offset on and names the offset where it stops, so a walk is an induction
on the rows that are left.
-/

namespace AdSearch.Proofs.Search.Paging

open AdSearch.Proofs.Outcome AdSearch.Proofs.Page.Token

variable {settings : Settings} {account : Account} {today : Date}

/-! ## The parts of a search -/

/-- The rows that a query text shows, however they are cut into pages. -/
structure Shows (settings : Settings) (account : Account) (today : Date) (query : String)
    (q : Query) (rows : List Value) : Prop where
  parsed : (Query.parse query).result = .ok q
  supported : ∃ source, Source.ofName q.source = .ok source
  listed : ∃ window records kept,
    (resolveWindow q.dateRange today settings.defaultWindowDays).result = .ok window ∧
    account.list q.source window = .ok records ∧
    filterRecords q.conditions records = .ok kept ∧ rows = project q.selectFields kept

theorem rows_eq_ok {q : Query} {window : Window} {rows : List Value} :
    account.rows q window = .ok rows ↔ ∃ records kept,
      account.list q.source window = .ok records ∧
      filterRecords q.conditions records = .ok kept ∧ rows = project q.selectFields kept := by
  unfold Account.rows
  simp only [bind_eq_ok, mapError_eq_ok, Except.ok.injEq]
  constructor
  · rintro ⟨records, hrecords, kept, hkept, hrows⟩
    exact ⟨records, kept, hrecords, hkept, hrows.symm⟩
  · rintro ⟨records, kept, hrecords, hkept, hrows⟩
    exact ⟨records, hrecords, kept, hkept, hrows.symm⟩

/-- A search succeeds when its size is allowed, its query shows rows, and those have a page at its
token. -/
theorem search_eq_ok {request : SearchRequest} {page : SearchPage} :
    (search settings account today request).result = .ok page ↔
      ∃ size q rows cut, settings.pageSize request.pageSize = .ok size ∧
        Shows settings account today request.query q rows ∧
        paginate rows size request.pageToken = .ok cut ∧
        page = ⟨cut.items, cut.nextToken, cut.totalCount, q.fieldMask⟩ := by
  unfold search
  simp only [result_bind_eq_ok, Log.Logged.result_ofExcept, result_write, result_pure,
    Except.ok.injEq, exists_const, true_and, rows_eq_ok]
  constructor
  · rintro ⟨size, hsize, q, hq, source, hsource, window, hwindow, rows, hrows, cut, hcut, hpage⟩
    obtain ⟨records, kept, hlisted⟩ := hrows
    exact ⟨size, q, rows, cut, hsize,
      ⟨hq, ⟨source, hsource⟩, window, records, kept, hwindow, hlisted⟩, hcut, hpage.symm⟩
  · rintro ⟨size, q, rows, cut, hsize, ⟨hq, ⟨source, hsource⟩, hlisted⟩, hcut, hpage⟩
    obtain ⟨window, records, kept, hwindow, hrows⟩ := hlisted
    exact ⟨size, hsize, q, hq, source, hsource, window, hwindow, rows, ⟨records, kept, hrows⟩,
      cut, hcut, hpage.symm⟩

/-! ## Sizes -/

/-- A size that may be asked for: none, or one in the allowed range. -/
def Allowed (settings : Settings) (asked : Option Int) : Prop :=
  ∀ size, asked = some size → 1 ≤ size ∧ size ≤ settings.maxPageSize

theorem pageSize_of_allowed (hdefault : 1 ≤ settings.defaultPageSize) {asked : Option Int}
    (h : Allowed settings asked) : ∃ size, 1 ≤ size ∧ settings.pageSize asked = .ok size := by
  cases asked with
  | none => exact ⟨_, hdefault, rfl⟩
  | some size =>
    obtain ⟨hlow, hhigh⟩ := h size rfl
    refine ⟨size, hlow, ?_⟩
    rw [Settings.pageSize, if_neg (by omega)]

/-! ## One step -/

/-- The page of `size` rows at an offset. -/
def pageAt (rows : List Value) (mask : String) (size offset : Nat) : SearchPage where
  results := (rows.drop offset).take size
  nextToken := if offset + size < rows.length then some (toString (offset + size)) else none
  totalCount := rows.length
  fieldMask := mask

theorem search_at {query : String} {q : Query} {rows : List Value}
    (hshows : Shows settings account today query q rows) {asked : Option Int} {size : Int}
    (hsize : settings.pageSize asked = .ok size) (hpos : 1 ≤ size) {token : Option String}
    {offset : Nat} (htoken : decodeToken token = .ok offset) :
    (search settings account today ⟨query, asked, token⟩).result =
      .ok (pageAt rows q.fieldMask size.toNat offset) := by
  rw [search_eq_ok]
  exact ⟨size, q, rows, _, hsize, hshows, paginate_of_decode rows hpos htoken, rfl⟩

/-! ## Runs -/

/-- A walk: each search goes on where the page before it stopped, and the last page names no next
one.  Step `n` asks for pages of size `sizes n`. -/
inductive Walk (settings : Settings) (account : Account) (today : Date) (query : String)
    (sizes : Nat → Option Int) : Nat → Option String → List SearchPage → Prop
  | last {n token page} :
    (search settings account today ⟨query, sizes n, token⟩).result = .ok page →
    page.nextToken = none → Walk settings account today query sizes n token [page]
  | more {n token page next pages} :
    (search settings account today ⟨query, sizes n, token⟩).result = .ok page →
    page.nextToken = some next →
    Walk settings account today query sizes (n + 1) (some next) pages →
    Walk settings account today query sizes n token (page :: pages)

/-- Pages that cut the rows from an offset on, without a gap and in order. -/
structure Cuts (settings : Settings) (sizes : Nat → Option Int) (rows : List Value)
    (mask : String) (n offset : Nat) (pages : List SearchPage) : Prop where
  results : pages.flatMap (·.results) = rows.drop offset
  same : ∀ page ∈ pages, page.totalCount = rows.length ∧ page.fieldMask = mask
  full : ∀ i page, pages[i]? = some page → i + 1 < pages.length →
    settings.pageSize (sizes (n + i)) = .ok (page.results.length : Int)
  offsets : ∃ offsets : List Nat, (offset :: offsets).Pairwise (· < ·) ∧
    pages.dropLast.map (·.nextToken) = offsets.map fun offset => some (toString offset)

theorem Cuts.last {sizes : Nat → Option Int} {rows : List Value} {mask : String}
    {n offset size : Nat} (h : rows.length ≤ offset + size) :
    Cuts settings sizes rows mask n offset [pageAt rows mask size offset] where
  results := by
    have hlen : (rows.drop offset).length ≤ size := by rw [List.length_drop]; omega
    simp [pageAt, List.take_of_length_le hlen]
  same := by simp [pageAt]
  full i page _ hi := by
    rw [List.length_singleton] at hi
    omega
  offsets := ⟨[], by simp, rfl⟩

theorem Cuts.more {sizes : Nat → Option Int} {rows : List Value} {mask : String}
    {n offset size : Nat} {pages : List SearchPage} (hsize : settings.pageSize (sizes n) = .ok size)
    (hpos : 1 ≤ size) (h : offset + size < rows.length) (hne : pages ≠ [])
    (ih : Cuts settings sizes rows mask (n + 1) (offset + size) pages) :
    Cuts settings sizes rows mask n offset (pageAt rows mask size offset :: pages) where
  results := by
    rw [List.flatMap_cons, ih.results, ← List.drop_drop]
    exact List.take_append_drop size (rows.drop offset)
  same := by
    intro page hpage
    rcases List.mem_cons.mp hpage with rfl | hpage
    · exact ⟨rfl, rfl⟩
    · exact ih.same page hpage
  full := by
    intro i page hget hi
    cases i with
    | zero =>
      obtain rfl : pageAt rows mask size offset = page := by simpa using hget
      have hlen : ((rows.drop offset).take size).length = size := by
        rw [List.length_take, List.length_drop]
        omega
      simpa [pageAt, hlen] using hsize
    | succ i =>
      rw [List.getElem?_cons_succ] at hget
      rw [List.length_cons] at hi
      rw [show n + (i + 1) = n + 1 + i by omega]
      exact ih.full i page hget (by omega)
  offsets := by
    obtain ⟨offsets, hsorted, htokens⟩ := ih.offsets
    refine ⟨(offset + size) :: offsets, ?_, ?_⟩
    · rw [List.pairwise_cons]
      refine ⟨?_, hsorted⟩
      intro later hlater
      rcases List.mem_cons.mp hlater with rfl | hlater
      · omega
      · have := (List.pairwise_cons.mp hsorted).1 later hlater
        omega
    · rw [List.dropLast_cons_of_ne_nil hne, List.map_cons, List.map_cons, htokens]
      simp [pageAt, h]

theorem exists_walk_from (hdefault : 1 ≤ settings.defaultPageSize) {sizes : Nat → Option Int}
    (hsizes : ∀ n, Allowed settings (sizes n)) {query : String} {q : Query} {rows : List Value}
    (hshows : Shows settings account today query q rows)
    (hrows : rows.length < 10 ^ offsetDigitLimit) {n offset : Nat} {token : Option String}
    (htoken : decodeToken token = .ok offset) :
    ∃ pages, Walk settings account today query sizes n token pages ∧ pages ≠ [] ∧
      Cuts settings sizes rows q.fieldMask n offset pages := by
  -- induction on the rows that are left after the offset
  induction hleft : rows.length - offset using Nat.strongRecOn generalizing n offset token with
  | ind left ih =>
    obtain ⟨size, hpos, hsize⟩ := pageSize_of_allowed hdefault (hsizes n)
    obtain ⟨size, rfl⟩ := Int.eq_ofNat_of_zero_le (show 0 ≤ size by omega)
    have hpos' : 1 ≤ size := by omega
    have hstep := search_at hshows hsize hpos htoken
    rw [Int.toNat_natCast] at hstep
    by_cases hmore : offset + size < rows.length
    · have hnext : (pageAt rows q.fieldMask size offset).nextToken =
          some (toString (offset + size)) := by simp [pageAt, hmore]
      obtain ⟨pages, hwalk, hne, hcuts⟩ := ih (rows.length - (offset + size)) (by omega)
        (n := n + 1) (decodeToken_toString (show offset + size < 10 ^ offsetDigitLimit by omega))
        rfl
      exact ⟨_, Walk.more hstep hnext hwalk, by simp, hcuts.more hsize hpos' hmore hne⟩
    · have hnext : (pageAt rows q.fieldMask size offset).nextToken = none := by
        simp [pageAt, hmore]
      exact ⟨_, Walk.last hstep hnext, by simp, Cuts.last (by omega)⟩

/-- Walking through the pages of a search loses and repeats nothing.  If the first search succeeds,
then so does every later one, whatever sizes are asked for on the way; the walk ends, its pages
put together are all rows of the query in order, every page but the last is full, and the offsets
that the tokens name increase.  No list that is held has as many rows as the greatest readable
token, which is what `hrows` says. -/
theorem walk_shows_all_rows (hdefault : 1 ≤ settings.defaultPageSize) {sizes : Nat → Option Int}
    (hsizes : ∀ n, Allowed settings (sizes n)) {query : String} {first : SearchPage}
    (hfirst : (search settings account today ⟨query, sizes 0, none⟩).result = .ok first)
    (hrows : first.totalCount < 10 ^ offsetDigitLimit) :
    ∃ q window records kept pages,
      (Query.parse query).result = .ok q ∧
      (resolveWindow q.dateRange today settings.defaultWindowDays).result = .ok window ∧
      account.list q.source window = .ok records ∧
      filterRecords q.conditions records = .ok kept ∧
      Walk settings account today query sizes 0 none pages ∧
      pages.flatMap (·.results) = project q.selectFields kept ∧
      (∀ page ∈ pages, page.totalCount = (project q.selectFields kept).length ∧
        page.fieldMask = q.fieldMask) ∧
      (∀ i page, pages[i]? = some page → i + 1 < pages.length →
        settings.pageSize (sizes i) = .ok (page.results.length : Int)) ∧
      ∃ offsets : List Nat, (0 :: offsets).Pairwise (· < ·) ∧
        pages.dropLast.map (·.nextToken) = offsets.map fun offset => some (toString offset) := by
  obtain ⟨size, q, rows, cut, hsize, hshows, hcut, rfl⟩ := search_eq_ok.mp hfirst
  obtain ⟨window, records, kept, hwindow, hrecords, hkept, hproject⟩ := hshows.listed
  have htotal : cut.totalCount = rows.length := by
    obtain ⟨size', hpos, hsize'⟩ := pageSize_of_allowed hdefault (hsizes 0)
    obtain rfl : size' = size := Except.ok.inj (hsize'.symm.trans hsize)
    have hspec := paginate_of_decode rows hpos (show decodeToken none = .ok 0 from rfl)
    rw [← Except.ok.inj (hspec.symm.trans hcut)]
  have hstart : decodeToken none = .ok 0 := rfl
  obtain ⟨pages, hwalk, -, hcuts⟩ := exists_walk_from (n := 0) hdefault hsizes hshows
    (by simpa [htotal] using hrows) hstart
  subst hproject
  refine ⟨q, window, records, kept, pages, hshows.parsed, hwindow, hrecords, hkept, hwalk, ?_,
    hcuts.same, ?_, hcuts.offsets⟩
  · simpa using hcuts.results
  · intro i page hget hi
    simpa using hcuts.full i page hget hi

/-- A campaign of which only the id matters. -/
def plainCampaign (id : String) : Campaign :=
  ⟨id, .text id, .text "ENABLED", .text "SEARCH", "", .null, .null, .none⟩

/-- An account with three campaigns. -/
def threeCampaigns : Account :=
  ⟨"1", ["7", "8", "9"].map fun id => (id, plainCampaign id), [], []⟩

/-- A day to search on. -/
def someDay : Date := ⟨2024, 3, 5, by decide, by decide, by decide, by decide⟩

/-- Three rows in a page of two and a page of the default size. -/
theorem walk_shows_three_campaigns :
    ∃ first q window records kept pages,
      (search Settings.default threeCampaigns someDay
        ⟨"SELECT campaign.id FROM campaign", some 2, none⟩).result = .ok first ∧
      first.nextToken = some "2" ∧ first.totalCount = 3 ∧
      (Query.parse "SELECT campaign.id FROM campaign").result = .ok q ∧
      threeCampaigns.list q.source window = .ok records ∧
      filterRecords q.conditions records = .ok kept ∧
      Walk Settings.default threeCampaigns someDay "SELECT campaign.id FROM campaign"
        (fun n => if n = 0 then some 2 else none) 0 none pages ∧
      pages.flatMap (·.results) = project q.selectFields kept := by
  have hsizes : ∀ n : Nat, Allowed Settings.default (if n = 0 then some 2 else none) := by
    intro n size hsize
    split at hsize
    · obtain rfl : 2 = size := Option.some.inj hsize
      decide
    · cases hsize
  have hlimit : 3 < 10 ^ offsetDigitLimit :=
    Nat.lt_of_lt_of_le (show 3 < 10 ^ 1 by decide) (Nat.pow_le_pow_right (by decide) (by decide))
  obtain ⟨first, hfirst, hnext, htotal⟩ : ∃ first, (search Settings.default threeCampaigns someDay
      ⟨"SELECT campaign.id FROM campaign", some 2, none⟩).result = .ok first ∧
      first.nextToken = some "2" ∧ first.totalCount = 3 := ⟨_, rfl, rfl, rfl⟩
  obtain ⟨q, window, records, kept, pages, hq, -, hrecords, hkept, hwalk, hresults, -⟩ :=
    walk_shows_all_rows (by decide) hsizes hfirst (htotal ▸ hlimit)
  exact ⟨first, q, window, records, kept, pages, hfirst, hnext, htotal, hq, hrecords, hkept,
    hwalk, hresults⟩

end AdSearch.Proofs.Search.Paging
