import AdSearch.Http.Framework
import AdSearch.Number.Literal

/-!
# Replies in JSON

Dates become text, and everything else keeps its shape.  A number that is not finite has no JSON
form, nor has an integer with too many digits, nor what is nested too deep.
-/

namespace AdSearch.Server

open AdSearch.Http

mutual

/-- The JSON form of a value, if it has one, with room for so many lists and records in one
another. -/
def jsonOf? : Nat → Value → Option Json
  | _, .null => some .null
  | _, .bool b => some (.bool b)
  | _, .int i => if Number.isWritable i then some (.integer i) else none
  | _, .float (.finite negative m e) => some (.number (.finite negative m e))
  | _, .float _ => none
  | _, .date d => some (.text d.iso)
  | _, .text s => some (.text s)
  | room + 1, .list items => (jsonItems? room items).map .array
  | room + 1, .record fields => (jsonFields? room fields).map .object
  | 0, _ => none

def jsonItems? : Nat → List Value → Option (List Json)
  | _, [] => some []
  | room, item :: rest => do
    let head ← jsonOf? room item
    let tail ← jsonItems? room rest
    some (head :: tail)

def jsonFields? : Nat → List (String × Value) → Option (List (String × Json))
  | _, [] => some []
  | room, (key, item) :: rest => do
    let head ← jsonOf? room item
    let tail ← jsonFields? room rest
    some ((key, head) :: tail)

end

/-- The JSON form of the value of a field, if it has one; there may be nothing in place of null. -/
def writeValue? (room : Nat) (omitsNull : Bool) :
    (type : ReplyType) → type.Carrier → Option (Option Json)
  | .rows, rows => (jsonItems? room rows).map fun js => some (.array js)
  | .text, s => some (some (.text s))
  | .optionalText, some s => some (some (.text s))
  | .optionalText, none => some (if omitsNull then none else some .null)

def writeFields? (room : Nat) (omitsNull : Bool) :
    (fields : List (ModelField ReplyType)) → Reply fields → Option (List (String × Json))
  | [], _ => some []
  | field :: fields, (value, rest) => do
    let shown ← writeValue? room omitsNull field.type value
    let others ← writeFields? room omitsNull fields rest
    some ((shown.map (Prod.mk field.shownName)).toList ++ others)

/-- The body of a reply, if all its values have a JSON form. -/
def reply (room : Nat) (omitsNull : Bool) (fields : List (ModelField ReplyType))
    (values : Reply fields) : Except Crash Json :=
  match writeFields? room omitsNull fields values with
  | some shown => .ok (.object shown)
  | none => .error (.reply "Out of range or nested too deep for JSON")

end AdSearch.Server
