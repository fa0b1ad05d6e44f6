import AdSearch.Number.Binary64
import AdSearch.Text.Blank

/-!
# Numbers written in text

Digits of every script count, a low line may stand between two digits, and blanks around the
number are ignored, except the four information separators.
-/

namespace AdSearch.Number

open AdSearch.Text

/-- The code points of the digit zero in every script of Unicode 14. -/
def zeroDigits : List Nat := [
  0x30, 0x660, 0x6F0, 0x7C0, 0x966, 0x9E6, 0xA66, 0xAE6, 0xB66, 0xBE6, 0xC66, 0xCE6, 0xD66,
  0xDE6, 0xE50, 0xED0, 0xF20, 0x1040, 0x1090, 0x17E0, 0x1810, 0x1946, 0x19D0, 0x1A80, 0x1A90,
  0x1B50, 0x1BB0, 0x1C40, 0x1C50, 0xA620, 0xA8D0, 0xA900, 0xA9D0, 0xA9F0, 0xAA50, 0xABF0,
  0xFF10, 0x104A0, 0x10D30, 0x11066, 0x110F0, 0x11136, 0x111D0, 0x112F0, 0x11450, 0x114D0,
  0x11650, 0x116C0, 0x11730, 0x118E0, 0x11950, 0x11C50, 0x11D50, 0x11DA0, 0x16A60, 0x16AC0,
  0x16B50, 0x1D7CE, 0x1D7D8, 0x1D7E2, 0x1D7EC, 0x1D7F6, 0x1E140, 0x1E2F0, 0x1E950, 0x1FBF0]

def digit? (c : Char) : Option Nat :=
  let n := c.toNat
  (zeroDigits.find? fun z => z ≤ n && n < z + 10).map (n - ·)

def isDigit (c : Char) : Bool := (digit? c).isSome

/-- The natural written by a run of digits; other characters are passed over. -/
def digitsValue (cs : List Char) : Nat :=
  cs.foldl (fun n c => match digit? c with
    | some d => 10 * n + d
    | none => n) 0

/-- The blanks that may surround a number. -/
def isMargin (c : Char) : Bool := isBlank c && !(28 ≤ c.toNat && c.toNat ≤ 31)

/-- Drops the blanks around a number. -/
def trimMargin (cs : List Char) : List Char :=
  ((cs.dropWhile isMargin).reverse.dropWhile isMargin).reverse

/-- The sign before a number, and the rest. -/
def takeSign : List Char → Bool × List Char
  | '-' :: cs => (true, cs)
  | '+' :: cs => (false, cs)
  | cs => (false, cs)

/-! ## Integers -/

/-- The most digits with which an integer is read or written. -/
def digitLimit : Nat := 4300

/-- Whether an integer has few enough digits to be written. -/
def isWritable (i : Int) : Bool := (Nat.toDigits 10 i.natAbs).length ≤ digitLimit

inductive IntegerError where
  | malformed
  | tooLong (digits : Nat)
deriving DecidableEq

/-- Whether every low line stands between two digits, in a run of digits and low lines. -/
def separatorsPaired (cs : List Char) : Bool :=
  cs.head? != some '_' && cs.getLast? != some '_' &&
    (cs.zip (cs.drop 1)).all fun (a, b) => !(a == '_' && b == '_')

/-- The integer that a text writes in base ten. -/
def readInteger (cs : List Char) : Except IntegerError Int :=
  let (negative, body) := takeSign (trimMargin cs)
  let run := body.takeWhile fun c => isDigit c || c == '_'
  let count := run.countP isDigit
  if count = 0 ∨ !separatorsPaired run then .error .malformed
  else if digitLimit < count then .error (.tooLong count)
  else if run.length < body.length then .error .malformed
  else .ok (if negative then -(digitsValue run : Int) else digitsValue run)

/-! ## Fractions and powers -/

/-- Drops the low lines of a number, each of which must stand between two digits. -/
def dropSeparators (afterDigit : Bool) : List Char → Option (List Char)
  | [] => some []
  | '_' :: cs =>
    match cs with
    | c :: _ => if afterDigit && isDigit c then dropSeparators false cs else none
    | [] => none
  | c :: cs => (dropSeparators (isDigit c) cs).map (c :: ·)

/-- The power of ten after a number: none, or a mark, a sign and digits. -/
def readPower? : List Char → Option Int
  | [] => some 0
  | c :: cs =>
    if c == 'e' || c == 'E' then
      let (negative, digits) := takeSign cs
      if digits.isEmpty || !digits.all isDigit then none
      else some (if negative then -(digitsValue digits : Int) else digitsValue digits)
    else none

/-- Digits with at most one point among them, and a power of ten. -/
def readDecimal? (negative : Bool) (cs : List Char) : Option Binary64 :=
  let whole := cs.takeWhile isDigit
  let rest := cs.dropWhile isDigit
  let (fraction, rest) := match rest with
    | '.' :: tail => (tail.takeWhile isDigit, tail.dropWhile isDigit)
    | _ => ([], rest)
  if whole.isEmpty && fraction.isEmpty then none
  else (readPower? rest).map fun power =>
    Binary64.ofDecimal negative (digitsValue (whole ++ fraction)) (power - fraction.length)

/-- A number without blanks and low lines: a decimal, or the name of an infinity or of NaN. -/
def readPlain? (cs : List Char) : Option Binary64 :=
  let (negative, body) := takeSign cs
  let name := String.ofList (body.map Char.toLower)
  if name == "inf" || name == "infinity" then some (.infinite negative)
  else if name == "nan" then some .nan
  else readDecimal? negative body

def readNumber? (cs : List Char) : Option Binary64 :=
  (dropSeparators false (trimMargin cs)).bind readPlain?

end AdSearch.Number
