import AdSearch.Error
import AdSearch.Number.Literal
import AdSearch.Value.Basic

/-!
# The number of a value
-/

namespace AdSearch.Value

/-- The number that a value counts as in a comparison; a value that is no number is NaN. -/
def toNumber : Value → Except Failure Binary64
  | int i =>
    match Binary64.ofInt? i with
    | some x => .ok x
    | none => .error .integerBeyondRange
  | bool b => .ok (Binary64.ofDecimal false b.toNat 0)
  | float x => .ok x
  | text s => .ok ((Number.readNumber? s.toList).getD .nan)
  | _ => .ok .nan

/-- The integer that a value of a seed counts as; a fraction is dropped. -/
def toInteger : Value → Except Failure Int
  | int i => .ok i
  | bool b => .ok b.toNat
  | float .nan => .error .nanToInteger
  | float (.infinite _) => .error .infinityToInteger
  | float (.finite negative m e) => .ok (Binary64.truncate negative m e)
  | text s =>
    match Number.readInteger s.toList with
    | .ok i => .ok i
    | .error .malformed => .error (.malformedInteger s)
    | .error (.tooLong digits) => .error (.integerTooLongToRead digits)
  | _ => .error .wrongKind

end AdSearch.Value
