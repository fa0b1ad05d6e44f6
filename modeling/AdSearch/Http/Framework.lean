import AdSearch.Account.Entity
import AdSearch.Http.Envelope
import AdSearch.Http.Message
import AdSearch.Log.Logged

/-!
# The framework

A service runs on a framework, to which it hands its routes, its middleware and its handlers.  The
framework reads a request, finds its route, takes the arguments of a search from the body, writes
the reply, and brings what is raised to its handler.  None of this is part of the service, so it is
a parameter here.
-/

namespace AdSearch.Http

open AdSearch.Log

/-! ## What is raised -/

/-- A failure that has no handler of its own: the address of a request cannot be read, a body is
nested too deep to be logged, the account cannot be had, a search fails, or a reply cannot be
written. -/
inductive Crash where
  | address
  | tooDeep
  | repository (message : String)
  | search (failure : Failure)
  | reply (message : String)
deriving DecidableEq

/-- What is raised instead of a response: a fault of a search, a body that does not fit, a request
that the framework refuses, or a failure. -/
inductive Raised where
  | fault (kind : FaultKind) (reason message : String)
  | invalid (faults : List BodyFault)
  | refused (status : Nat) (detail : String)
  | crash (cause : Crash)
deriving DecidableEq

abbrev Handler := Request → Logged Raised Response

/-! ## Models of bodies -/

/-- A field of a body, which goes by its alias, if it has one, and by its name. -/
structure ModelField (T : Type) where
  name : String
  alias? : Option String
  type : T

variable {T : Type}

/-- The name under which a field is shown. -/
def ModelField.shownName (field : ModelField T) : String := field.alias?.getD field.name

/-- The names of a field, of which the first that is there wins. -/
def ModelField.names (field : ModelField T) : List String := field.alias?.toList ++ [field.name]

/-- A value for each field of a model. -/
def Values (Carrier : T → Type) : List (ModelField T) → Type
  | [] => Unit
  | field :: rest => Carrier field.type × Values Carrier rest

/-- What a field of a request holds; an optional one may be left out or null. -/
inductive ArgumentType where
  | text (least : Nat)
  | optionalInteger
  | optionalText

def ArgumentType.Carrier : ArgumentType → Type
  | text _ => String
  | optionalInteger => Option Int
  | optionalText => Option String

/-- What a field of a reply holds. -/
inductive ReplyType where
  | rows
  | text
  | optionalText

def ReplyType.Carrier : ReplyType → Type
  | rows => List Value
  | text => String
  | optionalText => Option String

abbrev Arguments (fields : List (ModelField ArgumentType)) : Type :=
  Values ArgumentType.Carrier fields

abbrev Reply (fields : List (ModelField ReplyType)) : Type := Values ReplyType.Carrier fields

/-! ## The two sides -/

/-- What a service hands to the framework. -/
structure Wiring where
  /-- What stands around all routes, the outermost first. -/
  middleware : List (Handler → Handler)
  /-- The handler of its own that something raised has. -/
  handler? : Raised → Option Handler
  /-- The handler of everything else. -/
  lastResort : Raised → Handler
  /-- The path under which the search is mounted, and its path there, with a place for the
  customer. -/
  mount : String
  searchPath : String
  arguments : List (ModelField ArgumentType)
  reply : List (ModelField ReplyType)
  /-- Whether a reply leaves out the fields that are null. -/
  omitsNull : Bool
  /-- The account that a search is given. -/
  repository : Except Crash Account
  search : String → Arguments arguments → Account → Logged Raised (Reply reply)
  health : Json

/-- Where a request leads: to the routes of the service, to none of them, or to a response that the
framework has of its own. -/
inductive Route where
  | search (customer : String)
  | health
  | wrongMethod
  | unknown
  | own (response : Response)

/-- How requests are read and replies written, by the framework and the interpreter underneath. -/
structure Platform where
  /-- The text of the fault, if nothing can be mounted under a path. -/
  mountFault? : String → Option String
  /-- The path in the address of a request, unless the address cannot be read. -/
  path? : Request → Option String
  /-- The headers of a request by name. -/
  headers : Request → List (String × String)
  /-- Whether the body of a request is to be read as JSON. -/
  takesJson : Request → Bool
  /-- How deep a body may be nested to be logged. -/
  logRoom : Nat
  /-- How deep a body may be nested to be read for a search. -/
  bodyRoom : Nat
  /-- How deep a row may be nested to be written. -/
  replyRoom : Nat
  /-- The route of a request, given the mount and the path of the search. -/
  route : String → String → Request → Route
  /-- The arguments of a search and its account. -/
  arguments : (fields : List (ModelField ArgumentType)) → Except Crash Account → Request →
    Except Raised (Arguments fields × Account)
  /-- The body of a reply; the flag leaves out what is null. -/
  reply : Bool → (fields : List (ModelField ReplyType)) → Reply fields → Except Crash Json
  /-- The lines that tell where something was raised. -/
  traceback : Raised → List String

/-- A framework: a platform, and what becomes of a request to a service. -/
structure Framework extends Platform where
  serve : Wiring → Handler

/-! ## The way of a request -/

namespace Wiring

/-- The middleware around a handler. -/
def wrap (w : Wiring) (inner : Handler) : Handler :=
  w.middleware.foldr (fun layer next => layer next) inner

/-- A handler, where what it raises is brought to its own handler. -/
def guard (w : Wiring) (inner : Handler) : Handler := fun r =>
  (inner r).recover fun raised =>
    match w.handler? raised with
    | some handler => handler r
    | none => .raise raised

/-- A handler, where what it raises is brought to the last resort. -/
def rescue (w : Wiring) (inner : Handler) : Handler := fun r =>
  (inner r).recover fun raised => w.lastResort raised r

end Wiring

namespace Platform

/-- The search of a customer: its arguments, what it finds, and the reply. -/
def call (p : Platform) (w : Wiring) (customer : String) : Handler := fun r => do
  let (arguments, account) ← Logged.ofExcept (p.arguments w.arguments w.repository r)
  let reply ← w.search customer arguments account
  let body ← (Logged.ofExcept (p.reply w.omitsNull w.reply reply)).mapError .crash
  pure (.json 200 body)

/-- Where a route leads a request. -/
def follow (p : Platform) (w : Wiring) (r : Request) : Route → Logged Raised Response
  | .search customer => p.call w customer r
  | .health => pure (.json 200 w.health)
  | .wrongMethod => .raise (.refused 405 "Method Not Allowed")
  | .unknown => .raise (.refused 404 "Not Found")
  | .own response => pure response

/-- A service without its middleware and its handlers. -/
def respond (p : Platform) (w : Wiring) : Handler := fun r =>
  p.follow w r (p.route w.mount w.searchPath r)

end Platform

end AdSearch.Http
