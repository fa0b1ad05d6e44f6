import AdSearch.Proofs.Http.Answer
import AdSearch.Proofs.Server.Standard
import Mathlib.Control.Monad.Basic

/-!
# The envelope of every failure

A response is a result without an error, or an object with the field `error`, which repeats the
status and names it.  Details stand in it exactly if the search itself found a fault in its query or
in what it was asked for.  There is no response at all if the address of a request cannot be read,
but its path is to be told on the way.
-/

namespace AdSearch.Proofs.Http.Envelope

open AdSearch.Http AdSearch.Log AdSearch.Proofs.Outcome AdSearch.Proofs.Http.Answer
  AdSearch.Proofs.Http.Encoding AdSearch.Proofs.Http.Laws AdSearch.Proofs.Server.Standard

variable {fw : Framework} {p : Platform} {app : App} {moment : Moment} {draw : Binary64}
  {r : Request} {raised : Raised} {response : Response}

/-! ## Envelopes -/

/-- A request for a page that is not there. -/
def stray (host : String) : Request := ⟨"GET", "/nope", [], [("host", host)], []⟩

end AdSearch.Proofs.Http.Envelope
