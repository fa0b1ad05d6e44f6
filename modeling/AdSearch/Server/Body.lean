import AdSearch.Http.Framework
import AdSearch.Json.Reader
import AdSearch.Setting.Field

/-!
# Arguments from a body

A body is read as JSON unless its content type speaks against it.  Its fields are then taken one by
one; numbers may be given as text, and fields that nobody asks for do not count.
-/

namespace AdSearch.Server

open AdSearch.Http

/-! ## Fields -/

/-- The value of a field; an integer may also be a number without a fraction, a truth value or a
text. -/
def readArgument : (type : ArgumentType) → Json → Except FieldFault type.Carrier
  | .text least, .text s => if s.length < least then .error (.textLength least) else .ok s
  | .text _, .unpaired _ => .error .textUnicode
  | .text _, _ => .error .textKind
  | .optionalInteger, .null => .ok none
  | .optionalInteger, .integer i => .ok (some i)
  | .optionalInteger, .bool b => .ok (some b.toNat)
  | .optionalInteger, .number .nan => .error .finiteNumber
  | .optionalInteger, .number (.infinite _) => .error .finiteNumber
  | .optionalInteger, .number x =>
    match x.toInt? with
    | none => .error .integerFraction
    | some i => if i.natAbs < Nat.pow 2 63 then .ok (some i) else .error .integerSize
  | .optionalInteger, .text s => (Field.readInteger s).map some
  | .optionalInteger, .unpaired _ => .error .textUnicode
  | .optionalInteger, _ => .error .integerKind
  | .optionalText, .null => .ok none
  | .optionalText, .text s => .ok (some s)
  | .optionalText, .unpaired _ => .error .textUnicode
  | .optionalText, _ => .error .textKind

/-- What a field holds if it is left out. -/
def leftOut : (type : ArgumentType) → Except FieldFault type.Carrier
  | .text _ => .error .missing
  | .optionalInteger => .ok none
  | .optionalText => .ok none

/-- A fault of a field that goes by a name. -/
def fieldFault (name : String) (fault : FieldFault) : BodyFault := ⟨["body", name], fault.message⟩

/-- A fault of the body as a whole. -/
def wholeFault (fault : FieldFault) : BodyFault := ⟨["body"], fault.message⟩

/-- A field under the first of several names that is there. -/
def namedField? (names : List String) (object : List (String × Json)) : Option (String × Json) :=
  names.findSome? fun name => (Keyed.get? name object).map fun value => (name, value)

def readField (object : List (String × Json)) (field : ModelField ArgumentType) :
    Except BodyFault field.type.Carrier :=
  match namedField? field.names object with
  | none => (leftOut field.type).mapError (fieldFault field.shownName)
  | some (name, value) => (readArgument field.type value).mapError (fieldFault name)

/-- The values of all fields, or all faults in the order of the fields. -/
def readFields (object : List (String × Json)) :
    (fields : List (ModelField ArgumentType)) → Except (List BodyFault) (Arguments fields)
  | [] => .ok ()
  | field :: rest =>
    match readField object field, readFields object rest with
    | .ok value, .ok values => .ok (value, values)
    | .error fault, .ok _ => .error [fault]
    | .ok _, .error faults => .error faults
    | .error fault, .error faults => .error (fault :: faults)

/-! ## Bodies -/

/-- Whether a content type announces JSON; a type without one slash is plain text. -/
def isJsonType (contentType : String) : Bool :=
  let name := (Text.upTo? ';' contentType.toList).elim contentType.toList (·.1)
  match Text.splitOn '/' (Text.lower (Text.trim name)) with
  | [main, sub] =>
    main == "application".toList &&
      (sub == "json".toList || (Text.dropPrefix? "+json".toList.reverse sub.reverse).isSome)
  | _ => false

/-- Whether a request announces JSON, or nothing. -/
def takesJson (r : Request) : Bool :=
  ((Keyed.get? "content-type" r.headers).filter (· != "")).all isJsonType

/-- What a body holds: nothing, JSON, or something else. -/
inductive Content where
  | empty
  | json (value : Json)
  | other

def readContent (room : Nat) (r : Request) : Except Raised Content :=
  if r.body.isEmpty then .ok .empty
  else if takesJson r then
    match Json.decode room r.body with
    | .ok value => .ok (.json value)
    | .error (.malformed position) =>
      .error (.invalid [⟨["body", toString position], "JSON decode error"⟩])
    | .error _ => .error (.refused 400 "There was an error parsing the body")
  else .ok .other

def Content.arguments (fields : List (ModelField ArgumentType)) :
    Content → Except (List BodyFault) (Arguments fields)
  | empty => .error [wholeFault .missing]
  | json (.object object) => readFields object fields
  | json _ => .error [wholeFault .objectKind]
  | other => .error [wholeFault .objectKind]

/-- The arguments of a request and its account; the account is had before the fields are looked
at. -/
def arguments (room : Nat) (fields : List (ModelField ArgumentType))
    (repository : Except Crash Account) (r : Request) :
    Except Raised (Arguments fields × Account) := do
  let content ← readContent room r
  let account ← repository.mapError .crash
  let values ← (content.arguments fields).mapError .invalid
  .ok (values, account)

end AdSearch.Server
