import AdSearch.Json.Reader
import AdSearch.Text.Case

/-!
# Redaction

Credentials are replaced before headers and bodies are logged.
-/

namespace AdSearch.Http

/-- The headers that hold credentials, and what is shown instead. -/
def redactedHeaders : List (String × String) :=
  [("authorization", "Bearer ***"), ("ttd-auth", "***")]

/-- The fields of a body that hold credentials. -/
def redactedFields : List String := ["client_secret", "Password", "access_token"]

/-- The value of a header as it is logged. -/
def redactHeader (name value : String) : String :=
  (Keyed.get? (String.ofList (Text.lower name.toList)) redactedHeaders).getD value

def redactHeaders (headers : List (String × String)) : List (String × String) :=
  headers.map fun (name, value) => (name, redactHeader name value)

def redactBody : Json → Json
  | .object fields => .object (fields.map fun (key, value) =>
      (key, if redactedFields.contains key then .text "***" else value))
  | body => body

/-- A body for the log: JSON if it is JSON, else text, and nothing if it is empty.  There is none
for a body that is nested too deep to be read. -/
def decodeBody? (room : Nat) (octets : List Nat) : Option Json :=
  if octets.isEmpty then some .null
  else match Json.decode room octets with
    | .ok value => some value
    | .error .tooDeep => none
    | .error _ => some (.text (Text.utf8Lossy octets))

/-- Whether a body is worth a line: it is neither absent, false, zero nor empty. -/
def isLogged : Json → Bool
  | .null => false
  | .bool b => b
  | .integer i => i != 0
  | .number x => !x.isZero
  | .text s => s != ""
  | .unpaired points => !points.isEmpty
  | .array items => !items.isEmpty
  | .object fields => !fields.isEmpty

end AdSearch.Http
