import AdSearch.Http.App
import AdSearch.Proofs.Http.Laws
import AdSearch.Proofs.Outcome

/-!
# How a request is answered

The result is that of the rate limiter, or that of the route with the answer to what it raises.  The
request log stands between the two: it adds lines, and fails if it cannot read what it is to log.
-/

namespace AdSearch.Proofs.Http.Answer

open AdSearch.Http AdSearch.Log AdSearch.Proofs.Outcome AdSearch.Proofs.Http.Laws

variable {fw : Framework} {p : Platform} {app : App} {moment : Moment} {draw : Binary64}
  {r : Request} {inner : Handler} {raised : Raised}

/-! ## The service -/

theorem setup_eq_ok_iff {settings : Settings} {repository : Except Crash Account} :
    App.setup p settings repository = .ok app ↔ ∃ rank,
      Threshold.ofName settings.logLevel = .rank rank ∧
      p.mountFault? (mountPath settings) = none ∧
      ⟨settings, if rank = 0 then rootRank else rank, repository⟩ = app := by
  rw [App.setup]
  cases Threshold.ofName settings.logLevel with
  | notALevel failure => simp
  | rank rank => cases p.mountFault? (mountPath settings) <;> simp

/-! ## What is raised -/

/-- The response to something raised, for a request with a line. -/
def responseTo (line : String) : Raised → Response
  | .fault kind reason message => .json 400 (faultBody kind reason message)
  | .invalid faults => .json 400 (errorBody 400 "INVALID_ARGUMENT" (describe faults))
  | .refused status detail =>
    if status = 404 then
      .json 404 (errorBody 404 "NOT_FOUND" ("Route " ++ line ++ " not found"))
    else if 500 ≤ status then
      .json status (errorBody status "INTERNAL_ERROR"
        (if detail = "" then "Internal server error" else detail))
    else .json status (errorBody status "INVALID_ARGUMENT" detail)
  | .crash _ => failedResponse

/-- Whether the answer to something raised names the path of the request, be it in the log. -/
def namesPath : Raised → Bool
  | .refused status _ => status == 404
  | _ => true

/-- What comes of something raised. -/
def settle (p : Platform) (r : Request) (raised : Raised) : Except Raised Response :=
  if namesPath raised then (p.line r).result.map fun line => responseTo line raised
  else .ok (responseTo "" raised)

theorem result_line : (p.line r).result =
    (p.path? r).elim (.error (.crash .address)) fun path => .ok (r.method ++ " " ++ path) := by
  rw [Platform.line]
  cases p.path? r <;> rfl

theorem result_answerFailure :
    (answerFailure p raised r).result = (p.line r).result.map fun _ => failedResponse := by
  rw [answerFailure]
  simp only [result_bind, result_write, result_pure]
  cases (p.line r).result <;> rfl

theorem settle_eq_error_iff {e : Raised} : settle p r raised = .error e ↔
    namesPath raised = true ∧ p.path? r = none ∧ e = .crash .address := by
  rw [settle, result_line]
  by_cases hnames : namesPath raised = true
  · cases hpath : p.path? r <;> simp [hnames, Except.map, eq_comm]
  · simp [hnames]

/-- A handler of its own answers as the last resort would where the address cannot be read. -/
theorem result_ownHandler {handler : Handler} (h : ownHandler? p raised = some handler) :
    (handler r).result = settle p r raised := by
  cases raised with
  | fault kind reason message =>
    cases h
    simp only [answerFault, result_bind, result_write, result_pure, settle, namesPath]
    cases (p.line r).result <;> rfl
  | invalid faults =>
    cases h
    simp only [answerInvalid, result_bind, result_write, result_pure, settle, namesPath]
    cases (p.line r).result <;> rfl
  | refused status detail =>
    cases h
    by_cases hstatus : status = 404
    · subst hstatus
      simp only [answerRefused, settle, namesPath, if_true, result_bind, result_pure]
      cases (p.line r).result <;> rfl
    · have hnames : namesPath (.refused status detail) ≠ true := by simpa [namesPath] using hstatus
      rw [answerRefused, if_neg hstatus, settle, if_neg hnames, responseTo, if_neg hstatus]
      split <;> rfl
  | crash cause => cases h

/-! ## Handlers around a handler -/

/-- The result of a handler, with the answer to what it raises. -/
def settled (p : Platform) (r : Request) (result : Except Raised Response) :
    Except Raised Response :=
  match result with
  | .ok response => .ok response
  | .error raised => settle p r raised

theorem result_rescue : ((app.wiring p moment draw).rescue inner r).result =
    match (inner r).result with
    | .ok response => .ok response
    | .error _ => (p.line r).result.map fun _ => failedResponse := by
  rw [Wiring.rescue]
  cases hresult : (inner r).result with
  | ok response => rw [Logged.recover_of_ok hresult]
  | error raised =>
    rw [Logged.recover_of_error hresult]
    exact result_answerFailure

theorem result_guard : ((app.wiring p moment draw).guard inner r).result =
    match (inner r).result with
    | .ok response => .ok response
    | .error (.crash cause) => .error (.crash cause)
    | .error raised => settle p r raised := by
  rw [Wiring.guard]
  cases hresult : (inner r).result with
  | ok response => rw [Logged.recover_of_ok hresult]
  | error raised =>
    rw [Logged.recover_of_error hresult]
    cases raised with
    | crash cause => rfl
    | fault kind reason message => exact result_ownHandler rfl
    | invalid faults => exact result_ownHandler rfl
    | refused status detail => exact result_ownHandler rfl

/-- Whether the rate limiter turns a request away. -/
def isLimited (app : App) (draw : Binary64) : Bool :=
  app.settings.simulateRateLimiting && draw.lt app.settings.rateLimitProbability

theorem wrap_of_limited (h : isLimited app draw = true) :
    ((app.wiring p moment draw).wrap inner r).result =
      (p.line r).result.map fun _ => limitedResponse := by
  obtain ⟨hon, hdraw⟩ := (Bool.and_eq_true _ _).mp h
  have hwrap : (app.wiring p moment draw).wrap inner =
      limitRate p app.settings.rateLimitProbability draw
        (logRequest p app.settings.enableRequestLogging inner) := by
    simp only [Wiring.wrap, App.wiring, hon, if_true]
    rfl
  rw [hwrap, limitRate, if_pos hdraw]
  simp only [result_bind, result_write, result_pure]
  cases (p.line r).result <;> rfl

theorem wrap_of_not_limited (h : isLimited app draw = false) :
    (app.wiring p moment draw).wrap inner =
      logRequest p app.settings.enableRequestLogging inner := by
  unfold Wiring.wrap App.wiring
  dsimp only
  cases hon : app.settings.simulateRateLimiting with
  | false => rfl
  | true =>
    have hdraw : draw.lt app.settings.rateLimitProbability = false := by
      simpa [isLimited, hon] using h
    funext r
    change limitRate p app.settings.rateLimitProbability draw _ r = _
    rw [limitRate, if_neg (by simp [hdraw])]
    rfl

/-- The result of a handler inside the request log, if that can read what it is to log. -/
theorem result_logRequest (enabled : Bool) : (logRequest p enabled inner r).result =
    if enabled then do
      let _ ← (p.line r).result
      let _ ← (p.loggedBody r).result
      (inner r).result
    else (inner r).result := by
  cases enabled with
  | false => rfl
  | true =>
    rw [logRequest, if_pos rfl, if_pos rfl]
    simp only [result_bind]
    cases (p.line r).result with
    | error raised => rfl
    | ok line =>
      cases (p.loggedBody r).result with
      | error raised => rfl
      | ok body => cases (inner r).result <;> rfl

/-! ## The search -/

/-- The result of the route of a request, with the answer to what it raises. -/
def routed (p : Platform) (app : App) (moment : Moment) (draw : Binary64) (r : Request) :
    Except Raised Response :=
  settled p r (p.respond (app.wiring p moment draw) r).result

theorem result_rescue_guard :
    ((app.wiring p moment draw).rescue ((app.wiring p moment draw).guard inner) r).result =
      settled p r (inner r).result := by
  rw [result_rescue, result_guard]
  cases (inner r).result with
  | ok response => rfl
  | error raised =>
    have hfail : (match settle p r raised with
        | .ok response => .ok response
        | .error _ => (p.line r).result.map fun _ => failedResponse) = settle p r raised := by
      cases hsettle : settle p r raised with
      | ok response => rfl
      | error e =>
        obtain ⟨-, hpath, rfl⟩ := settle_eq_error_iff.mp hsettle
        rw [result_line, hpath]
        rfl
    cases raised with
    | crash cause => rfl
    | fault kind reason message => exact hfail
    | invalid faults => exact hfail
    | refused status detail => exact hfail

theorem result_of_limited (hfw : Dispatches fw) (hlimit : isLimited app draw = true) :
    (app.handle fw moment draw r).result =
      (fw.line r).result.map fun _ => limitedResponse := by
  change (fw.serve (app.wiring fw.toPlatform moment draw) r).result = _
  rw [hfw.serve_eq, result_rescue, wrap_of_limited hlimit, result_line]
  cases fw.path? r <;> rfl

theorem result_of_silent (hfw : Dispatches fw) (hlimit : isLimited app draw = false)
    (hsilent : app.settings.enableRequestLogging = false) :
    (app.handle fw moment draw r).result = routed fw.toPlatform app moment draw r := by
  change (fw.serve (app.wiring fw.toPlatform moment draw) r).result = _
  rw [hfw.serve_eq, wrap_of_not_limited hlimit, hsilent]
  exact result_rescue_guard

/-- The request log fails where the path cannot be told or the body is nested too deep. -/
theorem result_of_logging (hfw : Dispatches fw) (hlimit : isLimited app draw = false)
    (hlogging : app.settings.enableRequestLogging = true) :
    (app.handle fw moment draw r).result =
      match fw.path? r, decodeBody? fw.logRoom r.body with
      | none, _ => .error (.crash .address)
      | some _, none => .ok failedResponse
      | some _, some _ => routed fw.toPlatform app moment draw r := by
  change (fw.serve (app.wiring fw.toPlatform moment draw) r).result = _
  rw [hfw.serve_eq, wrap_of_not_limited hlimit, hlogging, result_rescue, result_logRequest,
    if_pos rfl, result_line, Platform.loggedBody]
  cases hpath : fw.path? r with
  | none => rfl
  | some path =>
    cases decodeBody? fw.logRoom r.body with
    | none => rfl
    | some body =>
      have hrouted : ((app.wiring fw.toPlatform moment draw).rescue
          ((app.wiring fw.toPlatform moment draw).guard
            (fw.respond (app.wiring fw.toPlatform moment draw))) r).result =
          routed fw.toPlatform app moment draw r := result_rescue_guard
      rw [← hrouted, result_rescue, result_line, hpath]
      rfl

end AdSearch.Proofs.Http.Answer
