import AdSearch.Http.Framework
import AdSearch.Json.Reader
import AdSearch.Text.Encoding
import AdSearch.Text.Scan

/-!
# Addresses and routes

The address of a request is put together from its host, its path and its query, and is then taken
apart again.  A host with an unpaired bracket cannot be read, nor can a query that is not UTF-8.
The route of a request goes by its path as it came.
-/

namespace AdSearch.Server

open AdSearch.Http AdSearch.Text

/-- The text of a query. -/
def queryText? (octets : List Nat) : Option (List Char) :=
  (allSome (utf8Points false .start octets)).map fun points => points.map Char.ofNat

/-- The characters that are dropped from an address. -/
def isDropped (c : Char) : Bool := ['\t', '\n', '\r'].contains c

/-- The characters that end the host of an address. -/
def endsHost (c : Char) : Bool := ['/', '?', '#'].contains c

/-- The address of a request after its scheme. -/
def address? (r : Request) : Option (List Char) :=
  (queryText? r.query).map fun query =>
    let host := (Keyed.get? "host" r.headers).getD "testserver"
    (host.toList ++ r.path.toList ++ (if query.isEmpty then [] else '?' :: query)).filter
      (!isDropped ·)

/-- Whether a text in brackets can be the number of a host. -/
def isHostNumber (cs : List Char) : Bool :=
  2 ≤ cs.count ':' && cs.all fun c => (Json.hexValue? c.toNat).isSome || c == ':' || c == '.'

/-- Whether the brackets of a host come in a pair, around a number. -/
def hasSoundBrackets (host : List Char) : Bool :=
  if host.contains '[' && host.contains ']' then
    isHostNumber (((host.dropWhile (· != '[')).drop 1).takeWhile (· != ']'))
  else !host.contains '[' && !host.contains ']'

def path? (r : Request) : Option String :=
  (address? r).bind fun address =>
    if hasSoundBrackets (address.takeWhile (!endsHost ·)) then
      let rest := address.dropWhile (!endsHost ·)
      some (String.ofList ((rest.takeWhile (· != '#')).takeWhile (· != '?')))
    else none

/-! ## Routes -/

/-- The text between a text in front and a text behind. -/
def between? (front behind s : List Char) : Option (List Char) := do
  let rest ← dropPrefix? front s
  let inner ← dropPrefix? behind.reverse rest.reverse
  some inner.reverse

/-- A text, and the same without a line end after it. -/
def lineForms (cs : List Char) : List (List Char) :=
  if cs.getLast? = some '\n' then [cs, cs.dropLast] else [cs]

/-- The customer in a path, given the text before and after the place for it. -/
def customer? (front behind : List Char) (path : String) : Option String :=
  (lineForms path.toList).findSome? fun cs =>
    (between? front behind cs).bind fun customer =>
      if customer.isEmpty || customer.contains '/' then none else some (String.ofList customer)

/-- The route of a request; the pages of the framework, its redirects and its answers before a
request from elsewhere are left out. -/
def route (mount searchPath : String) (r : Request) : Route :=
  let front := searchPath.toList.takeWhile (· != '\x7b')
  let behind := (searchPath.toList.dropWhile (· != '\x7d')).drop 1
  match customer? (mount.toList ++ front) behind r.path with
  | some customer => if r.method = "POST" then .search customer else .wrongMethod
  | none =>
    if (lineForms r.path.toList).contains "/health".toList then
      (if r.method = "GET" then .health else .wrongMethod)
    else .unknown

/-- The text of the fault, if nothing can be mounted under a path. -/
def mountFault? (mount : String) : Option String :=
  if mount.toList.getLast? = some '/' then
    some "A path prefix must not end with '/', as the routes will start with '/'"
  else none

end AdSearch.Server
