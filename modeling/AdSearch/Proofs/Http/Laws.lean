import AdSearch.Http.Framework
import AdSearch.Json.Reader
import AdSearch.Proofs.Http.Encoding

/-!
# What a service relies on

A service relies on its framework in four ways, each a law of its own: on the order in which
handlers are asked, on how requests are read, on how the fields of a body are read, and on how a
reply is written.
-/

namespace AdSearch.Proofs.Http.Laws

open AdSearch.Http AdSearch.Log AdSearch.Proofs.Http.Encoding

/-! ## Dispatch -/

/-- A request meets the middleware, outermost first, and then its route.  What the route raises goes
to its own handler before it leaves through the middleware, and what comes out of there goes to the
last resort. -/
structure Dispatches (fw : Framework) : Prop where
  serve_eq : ∀ w, fw.serve w = w.rescue (w.wrap (w.guard (fw.respond w)))

/-! ## Requests -/

/-- Whether two requests have the same value of a header, the first one counting. -/
def SameHeader (r r' : Request) (name : String) : Prop :=
  Keyed.get? name r.headers = Keyed.get? name r'.headers

/-- The headers that the route of a request may depend on: its host, and what a request from
elsewhere asks for. -/
def routedHeaders : List String :=
  ["host", "origin", "access-control-request-method", "access-control-request-headers"]

/-- What is read of a request depends on what it is told by, and on nothing else. -/
structure ReadsRequests (p : Platform) : Prop where
  headers_eq : ∀ r, p.headers r = r.headerTable
  path?_congr : ∀ {r r' : Request}, r.path = r'.path → r.query = r'.query →
    SameHeader r r' "host" → p.path? r = p.path? r'
  takesJson_congr : ∀ {r r'}, SameHeader r r' "content-type" → p.takesJson r = p.takesJson r'
  route_congr : ∀ {mount searchPath} {r r' : Request}, r.method = r'.method → r.path = r'.path →
    r.query = r'.query → (∀ name ∈ routedHeaders, SameHeader r r' name) →
    p.route mount searchPath r = p.route mount searchPath r'

/-! ## Bodies -/

/-- A field that may be left out: a value, or null, or nothing. -/
inductive Gives {α : Type} (make : α → Json) : Option Json → Option α → Prop
  | absent : Gives make none none
  | null : Gives make (some .null) none
  | value (a : α) : Gives make (some (make a)) (some a)

/-- What is at the name of a field gives its value. -/
inductive GivesValue : (type : ArgumentType) → Option Json → type.Carrier → Prop
  | text {least : Nat} {s : String} : least ≤ s.length →
    GivesValue (.text least) (some (.text s)) s
  | optionalInteger {given : Option Json} {i : Option Int} : Gives .integer given i →
    GivesValue .optionalInteger given i
  | optionalText {given : Option Json} {s : Option String} : Gives .text given s →
    GivesValue .optionalText given s

/-- An object gives the values of all fields, each under the name by which it is shown. -/
def GivesAll (object : List (String × Json)) :
    (fields : List (ModelField ArgumentType)) → Arguments fields → Prop
  | [], _ => True
  | field :: fields, (value, rest) =>
    GivesValue field.type (Keyed.get? field.shownName object) value ∧
      (∀ name ∈ field.names, name ≠ field.shownName → Keyed.get? name object = none) ∧
      GivesAll object fields rest

/-- Two objects have the same at all names of fields. -/
def SameFields (fields : List (ModelField ArgumentType)) (object object' : List (String × Json)) :
    Prop :=
  ∀ field ∈ fields, ∀ name ∈ field.names, Keyed.get? name object = Keyed.get? name object'

/-- The body of a request is read as an object. -/
structure HoldsObject (p : Platform) (r : Request) (object : List (String × Json)) : Prop where
  announced : p.takesJson r = true
  decoded : Json.decode p.bodyRoom r.body = .ok (.object object)

/-- Why there are no arguments: the body does not fit, it cannot be read, or there is no account. -/
inductive Rejects (repository : Except Crash Account) : Raised → Prop
  | invalid (faults : List BodyFault) : Rejects repository (.invalid faults)
  | unreadable (detail : String) : Rejects repository (.refused 400 detail)
  | repository {cause : Crash} : repository = .error cause → Rejects repository (.crash cause)

/-- An object that gives all fields gives the arguments; what else it has does not count, nor does
anything in a body that is not to be read as JSON; and without arguments it is known why. -/
structure ReadsBodies (p : Platform) : Prop where
  accepts : ∀ {fields r object arguments}, HoldsObject p r object →
    GivesAll object fields arguments →
    ∀ account, p.arguments fields (.ok account) r = .ok (arguments, account)
  ignores : ∀ {fields r r' object object'}, HoldsObject p r object → HoldsObject p r' object' →
    SameFields fields object object' →
    ∀ repository, p.arguments fields repository r = p.arguments fields repository r'
  skips : ∀ {r r'}, p.takesJson r = false → p.takesJson r' = false → r.body ≠ [] → r'.body ≠ [] →
    ∀ fields repository, p.arguments fields repository r = p.arguments fields repository r'
  rejects : ∀ {fields repository r raised}, p.arguments fields repository r = .error raised →
    Rejects repository raised

/-! ## Replies -/

section WritesReplies

variable {p : Platform} {omitsNull : Bool} {fields : List (ModelField ReplyType)}
  {values : Reply fields}

end WritesReplies

end AdSearch.Proofs.Http.Laws
