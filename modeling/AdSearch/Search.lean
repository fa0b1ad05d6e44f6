import AdSearch.Account.Listing
import AdSearch.Page
import AdSearch.Query.Parser
import AdSearch.Query.Period
import AdSearch.Record.Matching
import AdSearch.Record.Projection
import AdSearch.Setting.Settings

/-!
# Searching an account

A search reads a query, lists its resource over its days, keeps the records that satisfy its
conditions, projects them to its fields, and shows one page of them.
-/

namespace AdSearch

open AdSearch.Log

/-- What a search is asked for; sizes and tokens may be left out. -/
structure SearchRequest where
  query : String
  pageSize : Option Int
  pageToken : Option String

/-- One page of the results of a search. -/
structure SearchPage where
  results : List Value
  nextToken : Option String
  totalCount : Nat
  fieldMask : String

/-- The number of rows of a page, which must lie in the allowed range if it is given. -/
def Settings.pageSize (s : Settings) : Option Int → Except SearchError Int
  | none => .ok s.defaultPageSize
  | some size =>
    if size < 1 ∨ s.maxPageSize < size then
      .error (.ofFault (.pageSizeOutsideRange size s.maxPageSize))
    else .ok size

/-- The rows of a query over a window: the records that satisfy its conditions, projected. -/
def Account.rows (a : Account) (q : Query) (window : Window) : Except SearchError (List Value) := do
  let records ← a.list q.source window
  let kept ← (filterRecords q.conditions records).mapError .failure
  .ok (project q.selectFields kept)

/-- The line that reports a search, without its duration. -/
def searchLine (q : Query) (window : Window) (total returned : Nat) : Line where
  level := .info
  logger := "src.gaql.service"
  message := "Search | source=" ++ q.source ++ " | window=" ++ window.start.iso ++ ".." ++
    window.stop.iso ++ " | matched=" ++ toString total ++ " | returned=" ++ toString returned ++
    " | Nms"

def search (settings : Settings) (a : Account) (today : Date) (request : SearchRequest) :
    Logged SearchError SearchPage := do
  let size ← Logged.ofExcept (settings.pageSize request.pageSize)
  let q ← Query.parse request.query
  let _ ← Logged.ofExcept (Source.ofName q.source)
  let window ← resolveWindow q.dateRange today settings.defaultWindowDays
  let rows ← Logged.ofExcept (a.rows q window)
  let page ← Logged.ofExcept (paginate rows size request.pageToken)
  Logged.write (searchLine q window page.totalCount page.items.length)
  pure ⟨page.items, page.nextToken, page.totalCount, q.fieldMask⟩

end AdSearch
