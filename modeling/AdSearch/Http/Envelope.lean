import AdSearch.Error
import AdSearch.Http.Message

/-!
# The error envelope

Every failure leaves the service as an object with one field `error`, which repeats the status of
the response.  A fault of a search also has details, which name the kind of the fault, its code and
its text.  The faults of a body are told in one message.
-/

namespace AdSearch.Http

def errorBody (code : Nat) (status message : String) : Json :=
  .object [("error", .object [
    ("code", .integer code), ("message", .text message), ("status", .text status)])]

inductive FaultKind where
  | query
  | request
deriving DecidableEq

/-- The key of a kind in the details. -/
def FaultKind.key : FaultKind → String
  | query => "queryError"
  | request => "requestError"

/-- The type of the details. -/
def detailsType : String :=
  "type.googleapis.com/google.ads.googleads.v21.errors.GoogleAdsFailure"

/-- The envelope of a fault with a code and a text. -/
def faultBody (kind : FaultKind) (reason message : String) : Json :=
  .object [("error", .object [
    ("code", .integer 400), ("message", .text "Request contains an invalid argument."),
    ("status", .text "INVALID_ARGUMENT"),
    ("details", .array [.object [
      ("@type", .text detailsType),
      ("errors", .array [.object [
        ("errorCode", .object [(kind.key, .text reason)]), ("message", .text message)]])]])])]

/-- A fault of a body, at a path of fields. -/
structure BodyFault where
  location : List String
  message : String
deriving DecidableEq

def BodyFault.text (fault : BodyFault) : String :=
  let place := String.intercalate "." (fault.location.filter (· != "body"))
  if place = "" then fault.message else place ++ ": " ++ fault.message

def describe (faults : List BodyFault) : String :=
  let text := String.intercalate "; " (faults.map BodyFault.text)
  if text = "" then "Invalid request body" else text

end AdSearch.Http
