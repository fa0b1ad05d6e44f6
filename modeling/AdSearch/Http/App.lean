import AdSearch.Http.Framework
import AdSearch.Http.Redaction
import AdSearch.Json.Writer
import AdSearch.Log.Registry
import AdSearch.Search

/-!
# The service over HTTP

A request first meets the rate limiter, then the request log, then its route.  What is raised on the
way is answered by its handler.  All of them name the path of the request, which is read from its
address.
-/

namespace AdSearch.Http

open AdSearch.Log

/-- A service: its settings, the rank below which it is silent, and its account, unless that cannot
be had. -/
structure App where
  settings : Settings
  rank : Int
  repository : Except Crash Account

/-- What is known of the time at which a request is answered. -/
structure Moment where
  today : Date
  timestamp : String
  uptime : Json

inductive SetupFault where
  | level (failure : Failure)
  | mount (message : String)
deriving DecidableEq

/-- The path under which the search is mounted. -/
def mountPath (settings : Settings) : String := "/googleads/" ++ settings.apiVersion

section Handlers

variable (p : Platform)

def App.setup (settings : Settings) (repository : Except Crash Account) : Except SetupFault App :=
  match Threshold.ofName settings.logLevel with
  | .notALevel failure => .error (.level failure)
  | .rank rank =>
    match p.mountFault? (mountPath settings) with
    | some message => .error (.mount message)
    | none => .ok ⟨settings, if rank = 0 then rootRank else rank, repository⟩

/-- The method and the path of a request. -/
def Platform.line (r : Request) : Logged Raised String :=
  match p.path? r with
  | some path => pure (r.method ++ " " ++ path)
  | none => .raise (.crash .address)

/-! ## Handlers of what is raised -/

def refusalLine (line message : String) : Line where
  level := .warning
  logger := "src.api.errors"
  message := line ++ " -> " ++ message

def answerFault (kind : FaultKind) (reason message : String) : Handler := fun r => do
  let line ← p.line r
  Logged.write (refusalLine line (reason ++ ": " ++ message))
  pure (.json 400 (faultBody kind reason message))

def answerInvalid (faults : List BodyFault) : Handler := fun r => do
  let line ← p.line r
  Logged.write (refusalLine line ("invalid request body: " ++ describe faults))
  pure (.json 400 (errorBody 400 "INVALID_ARGUMENT" (describe faults)))

def answerRefused (status : Nat) (detail : String) : Handler := fun r =>
  if status = 404 then do
    let line ← p.line r
    pure (.json 404 (errorBody 404 "NOT_FOUND" ("Route " ++ line ++ " not found")))
  else if 500 ≤ status then
    let message := if detail = "" then "Internal server error" else detail
    pure (.json status (errorBody status "INTERNAL_ERROR" message))
  else pure (.json status (errorBody status "INVALID_ARGUMENT" detail))

def ownHandler? : Raised → Option Handler
  | .fault kind reason message => some (answerFault p kind reason message)
  | .invalid faults => some (answerInvalid p faults)
  | .refused status detail => some (answerRefused p status detail)
  | .crash _ => none

/-- The line about a failure that has no handler of its own, followed by where it was raised. -/
def failureLine (line : String) (trace : List String) : Line where
  level := .error
  logger := "src.api.errors"
  message := String.intercalate "\n" (("Unhandled error on " ++ line) :: trace)

def failedResponse : Response :=
  .json 500 (errorBody 500 "INTERNAL_ERROR" "Internal server error")

def answerFailure (raised : Raised) : Handler := fun r => do
  let line ← p.line r
  Logged.write (failureLine line (p.traceback raised))
  pure failedResponse

/-! ## Middleware -/

/-- A line of the rate limiter or the request log. -/
def trafficLine (level : Level) (message : String) : Line := ⟨level, "src.api.middleware", message⟩

def limitedResponse : Response where
  status := 429
  body := .json (errorBody 429 "RATE_LIMIT_EXCEEDED" "Too many requests. Please try again later.")
  retryAfter := some 60

/-- Turns a request away if a random draw is below a probability. -/
def limitRate (probability draw : Binary64) (next : Handler) : Handler := fun r =>
  if draw.lt probability then do
    let line ← p.line r
    Logged.write (trafficLine .warning ("Simulated rate limit on " ++ line))
    pure limitedResponse
  else next r

/-- The body of a request for the log. -/
def Platform.loggedBody (r : Request) : Logged Raised Json :=
  match decodeBody? p.logRoom r.body with
  | some body => pure body
  | none => .raise (.crash .tooDeep)

def headersLine (headers : List (String × String)) : Line :=
  let shown := Json.object ((redactHeaders headers).map fun (name, value) => (name, .text value))
  trafficLine .info ("Headers: " ++ shown.write)

def bodyLines (body : Json) : List Line :=
  if isLogged body then [trafficLine .info ("Body: " ++ (redactBody body).write)] else []

/-- The line about a request that is answered, without the duration. -/
def departureLine (line : String) (response : Response) : Line :=
  trafficLine .info (line ++ " " ++ toString response.status ++ " - Nms")

/-- Logs a request, its headers and its body without credentials, and then the status. -/
def logRequest (enabled : Bool) (next : Handler) : Handler := fun r =>
  if enabled then do
    let line ← p.line r
    Logged.writeAll [trafficLine .info line, headersLine (p.headers r)]
    let body ← p.loggedBody r
    Logged.writeAll (bodyLines body)
    let response ← next r
    Logged.write (departureLine line response)
    pure response
  else next r

/-! ## Routes -/

def searchFields : List (ModelField ArgumentType) := [
  ⟨"query", none, .text 1⟩, ⟨"page_size", some "pageSize", .optionalInteger⟩,
  ⟨"page_token", some "pageToken", .optionalText⟩]

def replyFields : List (ModelField ReplyType) := [
  ⟨"results", none, .rows⟩, ⟨"next_page_token", some "nextPageToken", .optionalText⟩,
  ⟨"total_results_count", some "totalResultsCount", .text⟩,
  ⟨"field_mask", some "fieldMask", .text⟩]

def searchRequest : Arguments searchFields → SearchRequest
  | (query, size, token, ()) => ⟨query, size, token⟩

def searchReply (page : SearchPage) : Reply replyFields :=
  (page.results, page.nextToken, toString page.totalCount, page.fieldMask, ())

/-- What an error of a search raises. -/
def Raised.ofSearch : SearchError → Raised
  | .query f => fault .query f.reason f.message
  | .request f => fault .request f.reason f.message
  | .failure failure => crash (.search failure)

/-- The line about the rows that were found. -/
def rowsLine (customer : String) (count : Nat) : Line where
  level := .debug
  logger := "src.api.routers.search"
  message := "googleAds:search for customer " ++ customer ++ " returned " ++ toString count ++
    " rows"

def App.search (app : App) (moment : Moment) (customer : String)
    (arguments : Arguments searchFields) (account : Account) :
    Logged Raised (Reply replyFields) := do
  let page ← (AdSearch.search app.settings account moment.today (searchRequest arguments)).mapError
    .ofSearch
  Logged.write (rowsLine customer page.results.length)
  pure (searchReply page)

def App.healthBody (app : App) (moment : Moment) : Json :=
  .object [("status", .text "ok"), ("timestamp", .text moment.timestamp),
    ("uptime", moment.uptime), ("environment", .text app.settings.environment)]

/-- Where the search is under its mount. -/
def searchPath : String := "/customers/\x7bcustomer_id\x7d/googleAds:search"

/-- The service as the framework has it, for a request with a random draw. -/
def App.wiring (app : App) (moment : Moment) (draw : Binary64) : Wiring where
  middleware :=
    (if app.settings.simulateRateLimiting then
      [limitRate p app.settings.rateLimitProbability draw] else []) ++
      [logRequest p app.settings.enableRequestLogging]
  handler? := ownHandler? p
  lastResort := answerFailure p
  mount := mountPath app.settings
  searchPath := searchPath
  arguments := searchFields
  reply := replyFields
  omitsNull := true
  repository := app.repository
  search := app.search moment
  health := app.healthBody moment

end Handlers

/-- What a service makes of a request, with the lines that are serious enough to be shown. -/
def App.handle (fw : Framework) (app : App) (moment : Moment) (draw : Binary64) : Handler :=
  fun r =>
    let answer := fw.serve (app.wiring fw.toPlatform moment draw) r
    ⟨answer.lines.filter fun line => app.rank ≤ line.level.rank, answer.result⟩

end AdSearch.Http
