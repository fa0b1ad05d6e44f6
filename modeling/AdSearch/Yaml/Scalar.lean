import AdSearch.Number.Literal
import AdSearch.Value.Basic
import AdSearch.Yaml.Node

/-!
# The values of scalars

A plain scalar is null, a truth value, a number or a date if its spelling is that of one, and text
otherwise; a quoted scalar is text.  Integers may be written in base two, eight, ten, sixteen and,
with colons, sixty, and low lines may stand among digits.  A date with a time of day stays text.
-/

namespace AdSearch.Yaml

open AdSearch.Number

def nullNames : List String := ["", "~", "null", "Null", "NULL"]

def trueNames : List String := ["yes", "Yes", "YES", "true", "True", "TRUE", "on", "On", "ON"]

def falseNames : List String := ["no", "No", "NO", "false", "False", "FALSE", "off", "Off", "OFF"]

/-- The spellings of an infinity after its sign. -/
def infinityNames : List String := [".inf", ".Inf", ".INF"]

def nanNames : List String := [".nan", ".NaN", ".NAN"]

def readBool? (s : String) : Option Bool :=
  if trueNames.contains s then some true
  else if falseNames.contains s then some false
  else none

/-! ## Integers -/

/-- Whether a text is some digits of a base, with low lines. -/
def isDigits (base : Nat) (cs : List Char) : Bool :=
  !cs.isEmpty && cs.all fun c =>
    c == '_' || (if base = 16 then c.isDigit || ('a' ≤ c && c ≤ 'f') || ('A' ≤ c && c ≤ 'F')
      else c.isDigit && c.toNat < 48 + base)

def withoutLowLines (cs : List Char) : List Char := cs.filter (· != '_')

def digitOf (c : Char) : Nat :=
  if c.isDigit then c.toNat - 48 else if 'a' ≤ c then c.toNat - 87 else c.toNat - 55

def inBase (base : Nat) (cs : List Char) : Nat :=
  cs.foldl (fun n c => base * n + digitOf c) 0

/-- The natural that digits write in base ten. -/
def decimalValue (cs : List Char) : Except Fault Nat :=
  if digitLimit < cs.length then .error (.integerTooLong cs.length) else .ok (inBase 10 cs)

/-- The natural that digits write in a base after its mark. -/
def markedValue (base : Nat) (cs : List Char) : Except Fault Nat :=
  match withoutLowLines cs with
  | [] => .error (.noDigits base)
  | digits => .ok (inBase base digits)

/-- Whether a text is a number below sixty, in one or two digits. -/
def isSixtieth : List Char → Bool
  | [a] => a.isDigit
  | [a, b] => '0' ≤ a && a ≤ '5' && b.isDigit
  | _ => false

/-- The natural whose digits in base sixty follow its first part. -/
def inSixtieths (whole : Nat) (parts : List (List Char)) : Nat :=
  parts.foldl (fun n part => 60 * n + inBase 10 part) whole

/-- The natural that a text without a sign spells. -/
def readMagnitude? : List Char → Option (Except Fault Nat)
  | [] => none
  | ['0'] => some (.ok 0)
  | '0' :: 'b' :: cs => if isDigits 2 cs then some (markedValue 2 cs) else none
  | '0' :: 'x' :: cs => if isDigits 16 cs then some (markedValue 16 cs) else none
  | '0' :: cs => if isDigits 8 cs then some (.ok (inBase 8 (withoutLowLines cs))) else none
  | c :: cs =>
    match Text.splitOn ':' (c :: cs) with
    | whole :: parts =>
      if c.isDigit && isDigits 10 whole && parts.all isSixtieth then
        some ((decimalValue (withoutLowLines whole)).map (inSixtieths · parts))
      else none
    | [] => none

def readInteger? (cs : List Char) : Option (Except Fault Int) :=
  let (negative, body) := takeSign cs
  (readMagnitude? body).map fun m => m.map fun n => if negative then -(n : Int) else n

/-! ## Fractions -/

/-- Whether a text is digits with low lines, of which the first is a digit. -/
def isWhole (cs : List Char) : Bool := isDigits 10 cs && cs.head? != some '_'

/-- Whether a text is a mark, a sign and digits, or nothing. -/
def isPower : List Char → Bool
  | [] => true
  | e :: sign :: digits =>
    (e == 'e' || e == 'E') && (sign == '+' || sign == '-') && !digits.isEmpty &&
      digits.all Char.isDigit
  | _ => false

/-- The number with a whole part in base sixty and digits after its point. -/
def sixtiethsValue (negative : Bool) (whole : List Char) (parts : List (List Char))
    (fraction : List Char) : Binary64 :=
  let n := inSixtieths (inBase 10 (withoutLowLines whole)) parts
  let digits := withoutLowLines fraction
  let den := Nat.pow 10 digits.length
  (Binary64.ofRatio negative (n * den + inBase 10 digits) den).getD (.infinite negative)

/-- The number with a point that a text spells. -/
def readFloat? (cs : List Char) : Option Binary64 :=
  let (negative, body) := takeSign cs
  if infinityNames.contains (String.ofList body) then some (.infinite negative)
  else if nanNames.contains (String.ofList cs) then some .nan
  else match Text.splitOn '.' body with
    | [before, after] =>
      let fraction := after.takeWhile fun c => c.isDigit || c == '_'
      let power := after.drop fraction.length
      let isPlain :=
        if before.isEmpty then isWhole fraction && body.length == cs.length else isWhole before
      if isPlain && isPower power then readPlain? (withoutLowLines cs)
      else match Text.splitOn ':' before with
        | whole :: part :: parts =>
          if isWhole whole && (part :: parts).all isSixtieth && power.isEmpty then
            some (sixtiethsValue negative whole (part :: parts) fraction)
          else none
        | _ => none
    | _ => none

/-! ## Dates -/

def dateOf (year month day : Nat) : Except Fault Date :=
  if year = 0 then .error .yearBeyondRange
  else if month = 0 ∨ 12 < month then .error .monthBeyondYear
  else match Date.ofFields? year month day with
    | some d => .ok d
    | none => .error .dayBeyondMonth

/-- The date that a text spells as `YYYY-MM-DD`. -/
def readDate? (cs : List Char) : Option (Except Fault Date) :=
  match Text.splitOn '-' cs with
  | [year, month, day] =>
    let isField (n : Nat) (part : List Char) := part.length == n && part.all Char.isDigit
    if isField 4 year && isField 2 month && isField 2 day then
      some (dateOf (inBase 10 year) (inBase 10 month) (inBase 10 day))
    else none
  | _ => none

/-! ## Values -/

/-- The value of a plain scalar; the marks of merged mappings and of default values have none. -/
def plainValue (s : String) : Except Fault Value :=
  let cs := s.toList
  if s == "<<" || s == "=" then .error .malformed
  else if nullNames.contains s then .ok .null
  else match readBool? s, readFloat? cs, readInteger? cs, readDate? cs with
    | some b, _, _, _ => .ok (.bool b)
    | _, some x, _, _ => .ok (.float x)
    | _, _, some i, _ => i.map .int
    | _, _, _, some d => d.map .date
    | _, _, _, _ => .ok (.text s)

/-- The value of a scalar whose spelling has to fit its tag. -/
def taggedValue (tag : Tag) (s : String) : Except Fault Value :=
  let cs := s.toList
  let fitted : Option (Except Fault Value) := match tag with
    | .untyped => some (plainValue s)
    | .text => some (.ok (.text s))
    | .null => some (.ok .null)
    | .bool => (readBool? (String.ofList (cs.map Char.toLower))).map fun b => .ok (.bool b)
    | .integer => (readInteger? cs).map fun i => i.map .int
    | .float => (readFloat? cs <|> readPlain? (withoutLowLines cs)).map fun x => .ok (.float x)
    | .date => (readDate? cs).map fun d => d.map .date
    | .list | .record => none
  fitted.getD (.error .malformed)

/-- The value of a scalar under its tag, if it has one. -/
def scalarValue (tag : Option Tag) (s : String) (plain : Bool) : Except Fault Value :=
  match tag with
  | some tag => taggedValue tag s
  | none => if plain then plainValue s else .ok (.text s)

end AdSearch.Yaml
