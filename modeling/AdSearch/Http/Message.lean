import AdSearch.Json.Basic
import AdSearch.Keyed

/-!
# Requests and responses
-/

namespace AdSearch.Http

/-- A request: header names are in lower case, and the path is without the query string, whose
octets stand apart. -/
structure Request where
  method : String
  path : String
  query : List Nat
  headers : List (String × String)
  body : List Nat

/-- The headers by name, the first of several values of one name counting. -/
def Request.headerTable (r : Request) : List (String × String) :=
  r.headers.foldl (fun table header =>
    match Keyed.get? header.1 table with
    | some _ => table
    | none => Keyed.put header.1 header.2 table) []

inductive Payload where
  | json (value : Json)
  | octets (octets : List Nat)

/-- A response, and after how many seconds to try again, if that is told. -/
structure Response where
  status : Nat
  body : Payload
  retryAfter : Option Nat

/-- A response with a JSON body. -/
def Response.json (status : Nat) (body : Json) : Response := ⟨status, .json body, none⟩

end AdSearch.Http
