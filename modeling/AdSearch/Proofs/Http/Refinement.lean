import AdSearch.Proofs.Http.Envelope
import Mathlib.Algebra.Group.Int.Defs

/-!
# The route of a search refines the search

A request that asks for a search is answered with what the search itself gives: its page, in JSON,
or its fault, in the envelope.  Anything else that goes wrong is told as a failure, and logged.
-/

namespace AdSearch.Proofs.Http.Refinement

open AdSearch.Http AdSearch.Log AdSearch.Proofs.Outcome AdSearch.Proofs.Http.Answer
  AdSearch.Proofs.Http.Encoding AdSearch.Proofs.Http.Envelope AdSearch.Proofs.Http.Laws
  AdSearch.Proofs.Server.Standard

variable {fw : Framework} {p : Platform} {settings : Settings} {account : Account} {app : App}
  {r : Request} {path : String} {object : List (String × Json)} {request : SearchRequest}
  {moment : Moment} {draw : Binary64}

/-! ## The service -/

end AdSearch.Proofs.Http.Refinement
