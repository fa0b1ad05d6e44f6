import AdSearch.Proofs.Http.Answer
import AdSearch.Proofs.Json.Nesting
import AdSearch.Proofs.Search.Paging
import AdSearch.Proofs.Server.Standard
import Mathlib.Data.List.Forall2

/-!
# Credentials stay out of the log

Two requests that differ in their credentials only are answered alike, and the log tells them as
little apart as the response does.  Whether requests are logged at all makes no difference to the
response, unless the log cannot read what it is to log.
-/

namespace AdSearch.Proofs.Http.Redaction

open AdSearch.Http AdSearch.Log AdSearch.Proofs.Outcome AdSearch.Proofs.Http.Answer
  AdSearch.Proofs.Http.Laws AdSearch.Proofs.Json.Nesting AdSearch.Proofs.Search.Paging
  AdSearch.Proofs.Server.Standard

variable {α : Type} {secret : String → Prop} {table table' : List (String × α)} {key : String}
  {value value' : α}

/-! ## Tables that agree except for secrets -/

/-- Two tables with the same keys in the same order, and with the same values at all keys that are
not secret. -/
def AgreeOpenly (secret : String → Prop) (table table' : List (String × α)) : Prop :=
  List.Forall₂ (fun entry entry' => entry.1 = entry'.1 ∧ (secret entry.1 ∨ entry.2 = entry'.2))
    table table'

theorem AgreeOpenly.isSome_get? (h : AgreeOpenly secret table table') (key : String) :
    (Keyed.get? key table).isSome = (Keyed.get? key table').isSome := by
  induction h with
  | nil => rfl
  | @cons entry entry' rest rest' hentry _ ih =>
    obtain ⟨k, a⟩ := entry
    obtain ⟨k', a'⟩ := entry'
    obtain ⟨rfl, -⟩ : k = k' ∧ _ := hentry
    rw [Keyed.get?, Keyed.get?]
    split
    · rfl
    · exact ih

theorem AgreeOpenly.get?_eq (h : AgreeOpenly secret table table') (hkey : ¬secret key) :
    Keyed.get? key table = Keyed.get? key table' := by
  induction h with
  | nil => rfl
  | @cons entry entry' rest rest' hentry _ ih =>
    obtain ⟨k, a⟩ := entry
    obtain ⟨k', a'⟩ := entry'
    obtain ⟨rfl, hvalue⟩ : k = k' ∧ _ := hentry
    rw [Keyed.get?, Keyed.get?]
    split
    · rename_i hk
      rcases hvalue with hsecret | hsame
      · exact absurd (hk ▸ hsecret) hkey
      · exact congrArg some hsame
    · exact ih

theorem AgreeOpenly.put (h : AgreeOpenly secret table table')
    (hvalue : secret key ∨ value = value') :
    AgreeOpenly secret (Keyed.put key value table) (Keyed.put key value' table') := by
  induction h with
  | nil => exact .cons ⟨rfl, hvalue⟩ .nil
  | @cons entry entry' rest rest' hentry hrest ih =>
    obtain ⟨k, a⟩ := entry
    obtain ⟨k', a'⟩ := entry'
    obtain ⟨rfl, hold⟩ : k = k' ∧ _ := hentry
    rw [Keyed.put, Keyed.put]
    split
    · rename_i hk
      exact .cons ⟨rfl, hk ▸ hvalue⟩ hrest
    · exact .cons ⟨rfl, hold⟩ ih

/-- What is shown of tables is the same if it is the same for the values of a secret. -/
theorem AgreeOpenly.map_eq {β : Type} (h : AgreeOpenly secret table table') {shown : String × α → β}
    (hshown : ∀ key value value', secret key → shown (key, value) = shown (key, value')) :
    table.map shown = table'.map shown := by
  have hall : List.Forall₂ (· = ·) (table.map shown) (table'.map shown) := by
    rw [List.forall₂_map_left_iff, List.forall₂_map_right_iff]
    refine h.imp ?_
    rintro ⟨k, a⟩ ⟨k', a'⟩ ⟨hkey, hvalue⟩
    obtain rfl : k = k' := hkey
    rcases hvalue with hsecret | hsame
    · exact hshown k a a' hsecret
    · exact congrArg (fun a => shown (k, a)) hsame
  rwa [List.forall₂_eq_eq_eq] at hall

/-! ## Requests that agree except for credentials -/

/-- The headers that hold credentials, in any letter case. -/
def IsSecretHeader (name : String) : Prop :=
  String.ofList (Text.lower name.toList) ∈ ["authorization", "ttd-auth"]

/-- The fields of a body that hold credentials. -/
def IsSecretField (key : String) : Prop := key ∈ ["client_secret", "Password", "access_token"]

/-- A body is an object, for the log and for the search. -/
structure IsObject (p : Platform) (octets : List Nat) (object : List (String × Json)) : Prop where
  logged : Json.decode p.logRoom octets = .ok (.object object)
  read : Json.decode p.bodyRoom octets = .ok (.object object)

/-- Two requests that differ in credentials only, with objects as their bodies. -/
structure DifferInSecrets (p : Platform) (r r' : Request) : Prop where
  method : r.method = r'.method
  path : r.path = r'.path
  query : r.query = r'.query
  headers : AgreeOpenly IsSecretHeader r.headers r'.headers
  bodies : ∃ object object', IsObject p r.body object ∧ IsObject p r'.body object' ∧
    AgreeOpenly IsSecretField object object'

variable {fw : Framework} {p : Platform} {app : App} {moment : Moment} {draw : Binary64}
  {r r' : Request} {inner : Handler} {object object' : List (String × Json)}

theorem sameHeader {name : String} (h : AgreeOpenly IsSecretHeader r.headers r'.headers)
    (hname : ¬IsSecretHeader name) : SameHeader r r' name :=
  h.get?_eq hname

theorem path?_eq (hp : ReadsRequests p) (h : DifferInSecrets p r r') : p.path? r = p.path? r' :=
  hp.path?_congr h.path h.query (sameHeader h.headers (by unfold IsSecretHeader; decide))

theorem line_eq (hp : ReadsRequests p) (h : DifferInSecrets p r r') : p.line r = p.line r' := by
  rw [Platform.line, Platform.line, path?_eq hp h, h.method]

/-! ## The log -/

/-- Both tables grow together: a header is new to one exactly if it is new to the other. -/
theorem agree_headerTable (h : AgreeOpenly IsSecretHeader r.headers r'.headers) :
    AgreeOpenly IsSecretHeader r.headerTable r'.headerTable := by
  refine List.rel_foldl ?_ .nil h
  rintro table table' htable ⟨name, value⟩ ⟨name', value'⟩ ⟨hname, hvalue⟩
  obtain rfl : name = name' := hname
  have hsome := htable.isSome_get? name
  dsimp only
  cases hget : Keyed.get? name table with
  | some a =>
    rw [hget] at hsome
    obtain ⟨a', hget'⟩ := Option.isSome_iff_exists.mp hsome.symm
    rw [hget']
    exact htable
  | none =>
    rw [hget] at hsome
    have hget' : Keyed.get? name table' = none := by simpa using hsome.symm
    rw [hget']
    exact htable.put hvalue

theorem redactHeader_eq {name : String} (h : IsSecretHeader name) (value value' : String) :
    redactHeader name value = redactHeader name value' := by
  have hall : ∀ name ∈ ["authorization", "ttd-auth"], (Keyed.get? name redactedHeaders).isSome := by
    decide
  obtain ⟨shown, hshown⟩ := Option.isSome_iff_exists.mp (hall _ h)
  rw [redactHeader, redactHeader, hshown]
  rfl

theorem redactHeaders_eq (h : AgreeOpenly IsSecretHeader r.headers r'.headers) :
    redactHeaders r.headerTable = redactHeaders r'.headerTable := by
  refine (agree_headerTable h).map_eq ?_
  intro name value value' hname
  exact congrArg (Prod.mk name) (redactHeader_eq hname value value')

theorem redactBody_eq (h : AgreeOpenly IsSecretField object object') :
    redactBody (.object object) = redactBody (.object object') := by
  refine congrArg Json.object (h.map_eq ?_)
  intro key value value' hkey
  have hcontains : redactedFields.contains key = true := List.contains_iff_mem.mpr hkey
  simp only [hcontains, if_true]

theorem bodyLines_eq (h : AgreeOpenly IsSecretField object object') :
    bodyLines (.object object) = bodyLines (.object object') := by
  have hlogged : isLogged (.object object) = isLogged (.object object') := by cases h <;> rfl
  rw [bodyLines, bodyLines, hlogged, redactBody_eq h]

theorem headersLine_eq (hp : ReadsRequests p) (h : DifferInSecrets p r r') :
    headersLine (p.headers r) = headersLine (p.headers r') := by
  rw [headersLine, headersLine, hp.headers_eq, hp.headers_eq, redactHeaders_eq h.headers]

theorem loggedBody_of_isObject (h : IsObject p r.body object) :
    p.loggedBody r = pure (.object object) := by
  rw [Platform.loggedBody, decodeBody?, isEmpty_of_decode h.logged, h.logged]
  rfl

theorem logRequest_eq (hp : ReadsRequests p) (h : DifferInSecrets p r r') (enabled : Bool)
    (hinner : inner r = inner r') :
    logRequest p enabled inner r = logRequest p enabled inner r' := by
  obtain ⟨object, object', hobject, hobject', hagree⟩ := h.bodies
  cases enabled with
  | false => exact hinner
  | true =>
    rw [logRequest, logRequest, if_pos rfl, if_pos rfl, line_eq hp h, headersLine_eq hp h, hinner,
      loggedBody_of_isObject hobject, loggedBody_of_isObject hobject']
    simp only [pure_bind_eq, bodyLines_eq hagree]

/-! ## The handlers -/

theorem ownHandler_eq (hline : p.line r = p.line r') {raised : Raised} {handler : Handler}
    (h : ownHandler? p raised = some handler) : handler r = handler r' := by
  cases raised with
  | fault kind reason message =>
    cases h
    rw [answerFault, answerFault, hline]
  | invalid faults =>
    cases h
    rw [answerInvalid, answerInvalid, hline]
  | refused status detail =>
    cases h
    rw [answerRefused, answerRefused, hline]
  | crash cause => cases h

theorem guard_eq (hline : p.line r = p.line r') (hinner : inner r = inner r') :
    (app.wiring p moment draw).guard inner r = (app.wiring p moment draw).guard inner r' := by
  rw [Wiring.guard, Wiring.guard, hinner]
  congr 1
  funext raised
  dsimp only [App.wiring]
  cases h : ownHandler? p raised with
  | none => rfl
  | some handler => exact ownHandler_eq hline h

theorem rescue_eq (hline : p.line r = p.line r') (hinner : inner r = inner r') :
    (app.wiring p moment draw).rescue inner r = (app.wiring p moment draw).rescue inner r' := by
  rw [Wiring.rescue, Wiring.rescue, hinner]
  congr 1
  funext raised
  change answerFailure p raised r = answerFailure p raised r'
  rw [answerFailure, answerFailure, hline]

/-! ## The response -/

theorem sameFields_searchFields (h : AgreeOpenly IsSecretField object object') :
    SameFields searchFields object object' := by
  have hopen : ∀ field ∈ searchFields, ∀ name ∈ field.names, ¬IsSecretField name := by
    unfold IsSecretField
    decide
  exact fun field hfield name hname => h.get?_eq (hopen field hfield name hname)

theorem takesJson_eq (hp : ReadsRequests p) (h : DifferInSecrets p r r') :
    p.takesJson r = p.takesJson r' :=
  hp.takesJson_congr (sameHeader h.headers (by unfold IsSecretHeader; decide))

theorem arguments_eq (hp : ReadsRequests p) (hbodies : ReadsBodies p) (h : DifferInSecrets p r r')
    (repository : Except Crash Account) :
    p.arguments searchFields repository r = p.arguments searchFields repository r' := by
  obtain ⟨object, object', hobject, hobject', hagree⟩ := h.bodies
  have htakes := takesJson_eq hp h
  cases hr : p.takesJson r with
  | true =>
    exact hbodies.ignores ⟨hr, hobject.read⟩ ⟨htakes ▸ hr, hobject'.read⟩
      (sameFields_searchFields hagree) repository
  | false =>
    have hbody : r.body ≠ [] := by simpa using isEmpty_of_decode hobject.read
    have hbody' : r'.body ≠ [] := by simpa using isEmpty_of_decode hobject'.read
    exact hbodies.skips hr (htakes ▸ hr) hbody hbody' searchFields repository

theorem route_eq (hp : ReadsRequests p) (h : DifferInSecrets p r r') (mount searchPath : String) :
    p.route mount searchPath r = p.route mount searchPath r' := by
  have hopen : ∀ name ∈ routedHeaders, ¬IsSecretHeader name := by
    unfold IsSecretHeader
    decide
  exact hp.route_congr h.method h.path h.query
    fun name hname => sameHeader h.headers (hopen name hname)

theorem respond_eq (hp : ReadsRequests p) (hbodies : ReadsBodies p) (h : DifferInSecrets p r r') :
    p.respond (app.wiring p moment draw) r = p.respond (app.wiring p moment draw) r' := by
  have hcall : ∀ customer, p.call (app.wiring p moment draw) customer r =
      p.call (app.wiring p moment draw) customer r' := by
    intro customer
    rw [Platform.call, Platform.call]
    dsimp only [App.wiring]
    rw [arguments_eq hp hbodies h]
  rw [Platform.respond, Platform.respond, route_eq hp h]
  cases p.route _ _ r' with
  | search customer => exact hcall customer
  | health => rfl
  | wrongMethod => rfl
  | unknown => rfl
  | own response => rfl

theorem wrap_eq (hp : ReadsRequests p) (h : DifferInSecrets p r r') (hinner : inner r = inner r') :
    (app.wiring p moment draw).wrap inner r = (app.wiring p moment draw).wrap inner r' := by
  have hlog := logRequest_eq hp h app.settings.enableRequestLogging hinner
  unfold Wiring.wrap App.wiring
  dsimp only
  cases app.settings.simulateRateLimiting with
  | false => exact hlog
  | true =>
    change limitRate p _ draw (logRequest p _ inner) r =
      limitRate p _ draw (logRequest p _ inner) r'
    rw [limitRate, limitRate, line_eq hp h, hlog]

theorem handle_eq (hfw : Dispatches fw) (hp : ReadsRequests fw.toPlatform)
    (hbodies : ReadsBodies fw.toPlatform) (h : DifferInSecrets fw.toPlatform r r') :
    app.handle fw moment draw r = app.handle fw moment draw r' := by
  have hline := line_eq hp h
  have hguard : (app.wiring fw.toPlatform moment draw).guard
      (fw.respond (app.wiring fw.toPlatform moment draw)) r =
      (app.wiring fw.toPlatform moment draw).guard
        (fw.respond (app.wiring fw.toPlatform moment draw)) r' :=
    guard_eq hline (respond_eq hp hbodies h)
  rw [App.handle, App.handle, hfw.serve_eq, rescue_eq hline (wrap_eq hp h hguard)]

/-! ## The request log -/

/-- The settings without the request log. -/
def unlogged (settings : Settings) : Settings := { settings with enableRequestLogging := false }

/-- A service without its request log. -/
def silenced (app : App) : App := { app with settings := unlogged app.settings }

theorem setup_silenced {settings : Settings} {repository : Except Crash Account}
    (h : App.setup p settings repository = .ok app) :
    App.setup p (unlogged settings) repository = .ok (silenced app) := by
  obtain ⟨rank, hrank, hmount, rfl⟩ := setup_eq_ok_iff.mp h
  exact setup_eq_ok_iff.mpr ⟨rank, hrank, hmount, rfl⟩

theorem routed_silenced : routed p (silenced app) moment draw r = routed p app moment draw r := rfl

/-- The request log of a service can read what it is to log. -/
def IsReadable (p : Platform) (r : Request) : Prop :=
  (p.path? r).isSome ∧ (decodeBody? p.logRoom r.body).isSome

/-- Without its request log a service gives the same responses to requests that it turns away, or
that it can read. -/
theorem result_silenced (hfw : Dispatches fw) (hlogging : app.settings.enableRequestLogging = true)
    (h : isLimited app draw = true ∨ IsReadable fw.toPlatform r) :
    (app.handle fw moment draw r).result = ((silenced app).handle fw moment draw r).result := by
  have hsame : isLimited (silenced app) draw = isLimited app draw := rfl
  cases hlimit : isLimited app draw with
  | true => rw [result_of_limited hfw hlimit, result_of_limited hfw (hsame.trans hlimit)]
  | false =>
    obtain hlimited | ⟨hpath, hbody⟩ := h
    · cases hlimit.symm.trans hlimited
    · obtain ⟨path, hpath⟩ := Option.isSome_iff_exists.mp hpath
      obtain ⟨body, hbody⟩ := Option.isSome_iff_exists.mp hbody
      rw [result_of_logging hfw hlimit hlogging, hpath, hbody,
        result_of_silent hfw (hsame.trans hlimit) rfl]
      exact routed_silenced.symm

/-- A request that cannot be logged fails, or has no response. -/
theorem result_of_unreadable (hfw : Dispatches fw)
    (hlogging : app.settings.enableRequestLogging = true)
    (h : ¬(isLimited app draw = true ∨ IsReadable fw.toPlatform r)) :
    (app.handle fw moment draw r).result =
      (fw.path? r).elim (.error (.crash .address)) fun _ => .ok failedResponse := by
  obtain ⟨hlimit, hread⟩ := not_or.mp h
  rw [result_of_logging hfw (Bool.eq_false_iff.mpr hlimit) hlogging]
  cases hpath : fw.path? r with
  | none => rfl
  | some path =>
    cases hbody : decodeBody? fw.logRoom r.body with
    | none => rfl
    | some body => exact absurd ⟨by rw [hpath]; rfl, by rw [hbody]; rfl⟩ hread

/-- The log of a service hides credentials.  Two requests that differ in credentials only have the
same response and the same log, line by line.  The response to a request is that of the service with
the same settings, but without the request log, if the rate limiter turns the request away or the
log can read what it is to log; any other request fails, or has no response if its address cannot be
read. -/
theorem log_hides_credentials (hfw : Dispatches fw) (hp : ReadsRequests fw.toPlatform)
    (hbodies : ReadsBodies fw.toPlatform) {settings : Settings}
    {repository : Except Crash Account}
    (hsetup : App.setup fw.toPlatform settings repository = .ok app)
    (hlogging : settings.enableRequestLogging = true) (moment : Moment) (draw : Binary64) :
    (∀ r r', DifferInSecrets fw.toPlatform r r' →
      app.handle fw moment draw r = app.handle fw moment draw r') ∧
    ∃ silent, App.setup fw.toPlatform (unlogged settings) repository = .ok silent ∧ ∀ r,
      (isLimited app draw = true ∨ IsReadable fw.toPlatform r →
        (app.handle fw moment draw r).result = (silent.handle fw moment draw r).result) ∧
      (¬(isLimited app draw = true ∨ IsReadable fw.toPlatform r) →
        (app.handle fw moment draw r).result =
          (fw.path? r).elim (.error (.crash .address)) fun _ => .ok failedResponse) := by
  have hlogs : app.settings.enableRequestLogging = true := by
    obtain ⟨rank, -, -, rfl⟩ := setup_eq_ok_iff.mp hsetup
    exact hlogging
  refine ⟨fun r r' h => handle_eq hfw hp hbodies h, silenced app, setup_silenced hsetup, ?_⟩
  intro r
  exact ⟨result_silenced hfw hlogs, result_of_unreadable hfw hlogs⟩

/-! ## Two passwords -/

def loggingSettings : Settings := { Settings.default with enableRequestLogging := true }

def loggingApp : App := ⟨loggingSettings, Level.info.rank, .ok threeCampaigns⟩

def dayMoment : Moment := ⟨someDay, "", .null⟩

/-- A request with a credential in a header, and with one in the body that is written in JSON. -/
def signedRequest (token password : String) : Request where
  method := "POST"
  path := "/googleads/v21/customers/1/googleAds:search"
  query := []
  headers := [("accept", "*"), ("authorization", token)]
  body := ("\x7b\"query\": \"SELECT campaign.id FROM campaign\", \"Password\": " ++ password ++
    "\x7d").toList.map Char.toNat

def signedFields (password : Json) : List (String × Json) :=
  [("query", .text "SELECT campaign.id FROM campaign"), ("Password", password)]

def textSigned : Request := signedRequest "Bearer x" "\"y\""

def listSigned : Request := signedRequest "" "[1, null]"

theorem isObject_textSigned :
    IsObject Server.platform textSigned.body (signedFields (.text "y")) := by
  have hdecoded : Json.decode Server.bodyRoom textSigned.body =
      .ok (.object (signedFields (.text "y"))) := by
    decide +kernel
  exact ⟨hdecoded, hdecoded⟩

theorem isObject_listSigned :
    IsObject Server.platform listSigned.body (signedFields (.array [.integer 1, .null])) := by
  have hdecoded : Json.decode Server.bodyRoom listSigned.body =
      .ok (.object (signedFields (.array [.integer 1, .null]))) := by
    decide +kernel
  exact ⟨hdecoded, hdecoded⟩

theorem differInSecrets_signed : DifferInSecrets Server.platform textSigned listSigned where
  method := rfl
  path := rfl
  query := rfl
  headers := .cons ⟨rfl, Or.inr rfl⟩
    (.cons ⟨rfl, Or.inl (by unfold IsSecretHeader; decide)⟩ .nil)
  bodies := ⟨_, _, isObject_textSigned, isObject_listSigned,
    .cons ⟨rfl, Or.inr rfl⟩ (.cons ⟨rfl, Or.inl (by unfold IsSecretField; decide)⟩ .nil)⟩

/-- The lines that a service logs for both requests. -/
def signedLines : List String := [
  "POST /googleads/v21/customers/1/googleAds:search",
  "Headers: \x7b\"accept\": \"*\", \"authorization\": \"Bearer ***\"\x7d",
  "Body: \x7b\"query\": \"SELECT campaign.id FROM campaign\", \"Password\": \"***\"\x7d",
  "Search | source=campaign | window=2024-02-04..2024-03-05 | matched=3 | returned=3 | Nms",
  "POST /googleads/v21/customers/1/googleAds:search 200 - Nms"]

/-- A text and a list as passwords. -/
theorem log_hides_passwords :
    App.setup Server.platform loggingSettings (.ok threeCampaigns) = .ok loggingApp ∧
      loggingSettings.enableRequestLogging = true ∧ textSigned.body ≠ listSigned.body ∧
      DifferInSecrets Server.platform textSigned listSigned ∧
      loggingApp.handle Server.standard dayMoment .nan textSigned =
        loggingApp.handle Server.standard dayMoment .nan listSigned ∧
      (loggingApp.handle Server.standard dayMoment .nan textSigned).lines.map (·.message) =
        signedLines := by
  have hsetup : App.setup Server.platform loggingSettings (.ok threeCampaigns) =
      .ok loggingApp := rfl
  have hhides := log_hides_credentials dispatches_standard readsRequests_standard
    readsBodies_standard hsetup rfl dayMoment .nan
  refine ⟨hsetup, rfl, by decide, differInSecrets_signed, ?_, by decide +kernel⟩
  exact hhides.1 _ _ differInSecrets_signed

/-! ## A nested body -/

/-- A request for the health of a service, with a body that nobody reads but the log. -/
def nestedRequest : Request :=
  ⟨"GET", "/health", [], [("content-type", "application/json")], List.replicate 20000 bracket⟩

theorem path?_nestedRequest : Server.platform.path? nestedRequest = some "/health" := by
  have hbare : Server.platform.path? ⟨"GET", "/health", [], [], []⟩ = some "/health" := by
    decide +kernel
  rw [← hbare]
  exact readsRequests_standard.path?_congr rfl rfl rfl

theorem decodeBody?_nestedRequest :
    decodeBody? Server.platform.logRoom nestedRequest.body = none := by
  have hdeep : Json.decode Server.platform.logRoom nestedRequest.body = .error .tooDeep := by
    have hroom : Server.platform.logRoom < 20000 := by decide
    rw [← decode_of_brackets hroom (List.forall_mem_nil _), List.append_nil]
    rfl
  have hempty : nestedRequest.body.isEmpty = false := rfl
  rw [decodeBody?, hempty, hdeep]
  rfl

/-- The health of a service cannot be had with a body that is nested too deep, unless requests are
not logged. -/
theorem log_disturbs_nested :
    App.setup Server.platform loggingSettings (.ok threeCampaigns) = .ok loggingApp ∧
      App.setup Server.platform (unlogged loggingSettings) (.ok threeCampaigns) =
        .ok (silenced loggingApp) ∧
      (loggingApp.handle Server.standard dayMoment .nan nestedRequest).result =
        .ok failedResponse ∧
      ((silenced loggingApp).handle Server.standard dayMoment .nan nestedRequest).result =
        .ok (.json 200 (loggingApp.healthBody dayMoment)) := by
  have hlimit : isLimited loggingApp .nan = false := rfl
  have hunlimited : isLimited (silenced loggingApp) .nan = false := rfl
  have hpath : Server.standard.path? nestedRequest = some "/health" := path?_nestedRequest
  have hbody : decodeBody? Server.standard.logRoom nestedRequest.body = none :=
    decodeBody?_nestedRequest
  have hroute : Server.platform.route (mountPath loggingSettings) searchPath nestedRequest =
      .health := rfl
  refine ⟨rfl, rfl, ?_, ?_⟩
  · rw [result_of_logging dispatches_standard hlimit rfl, hpath, hbody]
  · rw [result_of_silent dispatches_standard hunlimited rfl]
    change settled Server.platform nestedRequest (Server.platform.follow _ nestedRequest
      (Server.platform.route (mountPath loggingSettings) searchPath nestedRequest)).result = _
    rw [hroute]
    rfl

end AdSearch.Proofs.Http.Redaction
