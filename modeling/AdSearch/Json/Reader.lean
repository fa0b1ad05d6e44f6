import AdSearch.Json.Basic
import AdSearch.Number.Literal

/-!
# Reading JSON

The reader works on code points.  `NaN`, `Infinity` and `-Infinity` are numbers, the last of
several fields with one key counts, and control characters must be escaped.  Arrays and objects may
be nested as deep as there is room.  A failure knows the text that was left where it arose.
-/

namespace AdSearch.Json

open AdSearch.Text

/-- Why a text is not JSON; a malformed text is given from the failure on. -/
inductive ReadError where
  | malformed (rest : List Nat)
  | integerTooLong
  | tooDeep

/-- The code points of a word of ASCII letters. -/
def points (word : String) : List Nat := word.toList.map Char.toNat

/-- The rest of a text after a word. -/
def afterWord? : List Nat → List Nat → Option (List Nat)
  | [], cs => some cs
  | _ :: _, [] => none
  | w :: ws, c :: cs => if w = c then afterWord? ws cs else none

/-- Drops spaces, tabs and line ends. -/
def skipSpace (cs : List Nat) : List Nat :=
  cs.dropWhile fun c => c == 0x20 || c == 0x09 || c == 0x0A || c == 0x0D

def hexValue? (c : Nat) : Option Nat :=
  if 0x30 ≤ c ∧ c ≤ 0x39 then some (c - 0x30)
  else if 0x61 ≤ c ∧ c ≤ 0x66 then some (c - 0x57)
  else if 0x41 ≤ c ∧ c ≤ 0x46 then some (c - 0x37)
  else none

def hex4? (a b c d : Nat) : Option Nat := do
  let a ← hexValue? a
  let b ← hexValue? b
  let c ← hexValue? c
  let d ← hexValue? d
  some (((a * 16 + b) * 16 + c) * 16 + d)

/-- The code point that a letter after a backslash stands for. -/
def escaped? : Nat → Option Nat
  | 0x22 => some 0x22
  | 0x5C => some 0x5C
  | 0x2F => some 0x2F
  | 0x62 => some 0x08
  | 0x66 => some 0x0C
  | 0x6E => some 0x0A
  | 0x72 => some 0x0D
  | 0x74 => some 0x09
  | _ => none

/-- A code point of a string, and whether an escape of four digits names it. -/
structure StringPoint where
  point : Nat
  named : Bool

/-- Puts a code point in front of what a reader takes. -/
def consPoint (p : StringPoint) (taken : Except ReadError (List StringPoint × List Nat)) :
    Except ReadError (List StringPoint × List Nat) :=
  taken.map fun (ps, rest) => (p :: ps, rest)

/-- The code points of a string after its opening quotation mark, which is the first of
`start`. -/
def stringTail (start : List Nat) : List Nat → Except ReadError (List StringPoint × List Nat)
  | [] => .error (.malformed start)
  | 0x22 :: rest => .ok ([], rest)
  | 0x5C :: 0x75 :: a :: b :: c :: d :: next :: rest =>
    match hex4? a b c d with
    | some p => consPoint ⟨p, true⟩ (stringTail start (next :: rest))
    | none => .error (.malformed (0x75 :: a :: b :: c :: d :: next :: rest))
  | 0x5C :: 0x75 :: rest => .error (.malformed (0x75 :: rest))
  | [0x5C] => .error (.malformed start)
  | 0x5C :: c :: rest =>
    match escaped? c with
    | some p => consPoint ⟨p, false⟩ (stringTail start rest)
    | none => .error (.malformed (0x5C :: c :: rest))
  | c :: rest =>
    if c < 0x20 then .error (.malformed (c :: rest))
    else consPoint ⟨c, false⟩ (stringTail start rest)

/-- Joins two neighbouring escapes that name a surrogate pair. -/
def joinPairs : List StringPoint → List Nat
  | [] => []
  | [p] => [p.point]
  | high :: low :: rest =>
    if high.named && low.named && isHighSurrogate high.point && isLowSurrogate low.point then
      joinSurrogates high.point low.point :: joinPairs rest
    else high.point :: joinPairs (low :: rest)

/-- Whether a code point is an ASCII digit. -/
def isDigitPoint (c : Nat) : Bool := 0x30 ≤ c && c ≤ 0x39

/-- The whole part of a number: a zero, or digits that start with another. -/
def wholePart? : List Nat → Option (List Nat × List Nat)
  | 0x30 :: rest => some ([0x30], rest)
  | c :: rest =>
    if isDigitPoint c then
      some (c :: rest.takeWhile isDigitPoint, rest.dropWhile isDigitPoint)
    else none
  | [] => none

/-- A point and digits. -/
def fractionPart (cs : List Nat) : List Nat × List Nat :=
  match cs with
  | 0x2E :: rest =>
    match rest.takeWhile isDigitPoint with
    | [] => ([], cs)
    | digits => (0x2E :: digits, rest.dropWhile isDigitPoint)
  | _ => ([], cs)

/-- A mark, a sign and digits. -/
def powerPart (cs : List Nat) : List Nat × List Nat :=
  match cs with
  | [] => ([], cs)
  | e :: rest =>
    if e == 0x65 || e == 0x45 then
      let (sign, rest) := match rest with
        | 0x2D :: tail => ([0x2D], tail)
        | 0x2B :: tail => ([0x2B], tail)
        | _ => ([], rest)
      match rest.takeWhile isDigitPoint with
      | [] => ([], cs)
      | digits => (e :: sign ++ digits, rest.dropWhile isDigitPoint)
    else ([], cs)

/-- The number after an optional minus sign, at the start of `start`. -/
def readNumber (start : List Nat) : Except ReadError (Json × List Nat) :=
  let (sign, cs) := match start with
    | 0x2D :: rest => ([0x2D], rest)
    | _ => ([], start)
  match wholePart? cs with
  | none => .error (.malformed start)
  | some (whole, cs) =>
    let (fraction, cs) := fractionPart cs
    let (power, cs) := powerPart cs
    if fraction.isEmpty && power.isEmpty then
      match Number.readInteger ((sign ++ whole).map Char.ofNat) with
      | .ok i => .ok (integer i, cs)
      | .error _ => .error .integerTooLong
    else
      let written := (sign ++ whole ++ fraction ++ power).map Char.ofNat
      .ok (number ((Number.readPlain? written).getD .nan), cs)

/-- The values that are written as a word. -/
def namedValues : List (List Nat × Json) := [
  (points "null", null), (points "true", bool true), (points "false", bool false),
  (points "NaN", number .nan), (points "Infinity", number (.infinite false)),
  (points "-Infinity", number (.infinite true))]

/-- A value that is written as a word. -/
def named? (cs : List Nat) : Option (Json × List Nat) :=
  namedValues.findSome? fun (word, value) => (afterWord? word cs).map fun rest => (value, rest)

mutual

/-- The value at the start of a text, with room for so many arrays and objects in one another. -/
def value : Nat → Nat → List Nat → Except ReadError (Json × List Nat)
  | 0, _, cs => .error (.malformed cs)
  | fuel + 1, room, cs =>
    match cs with
    | 0x22 :: rest => (stringTail cs rest).map fun (ps, rest) => (ofPoints (joinPairs ps), rest)
    | 0x7B :: rest =>
      match room, skipSpace rest with
      | 0, _ => .error .tooDeep
      | _ + 1, 0x7D :: rest => .ok (object [], rest)
      | room + 1, rest => fields fuel room [] rest
    | 0x5B :: rest =>
      match room, skipSpace rest with
      | 0, _ => .error .tooDeep
      | _ + 1, 0x5D :: rest => .ok (array [], rest)
      | room + 1, rest => items fuel room [] rest
    | _ => match named? cs with
      | some found => .ok found
      | none => readNumber cs

/-- The items of an array after those in `before`, which are in reverse. -/
def items : Nat → Nat → List Json → List Nat → Except ReadError (Json × List Nat)
  | 0, _, _, cs => .error (.malformed cs)
  | fuel + 1, room, before, cs => do
    let (item, rest) ← value fuel room cs
    match skipSpace rest with
    | 0x5D :: rest => .ok (array (item :: before).reverse, rest)
    | 0x2C :: rest => items fuel room (item :: before) (skipSpace rest)
    | rest => .error (.malformed rest)

/-- The fields of an object after those in `before`. -/
def fields : Nat → Nat → List (String × Json) → List Nat → Except ReadError (Json × List Nat)
  | 0, _, _, cs => .error (.malformed cs)
  | fuel + 1, room, before, cs =>
    match cs with
    | 0x22 :: rest => do
      let (key, rest) ← stringTail cs rest
      match skipSpace rest with
      | 0x3A :: rest => do
        let (item, rest) ← value fuel room (skipSpace rest)
        let before := Keyed.put (keyOfPoints (joinPairs key)) item before
        match skipSpace rest with
        | 0x7D :: rest => .ok (object before, rest)
        | 0x2C :: rest => fields fuel room before (skipSpace rest)
        | rest => .error (.malformed rest)
      | rest => .error (.malformed rest)
    | _ => .error (.malformed cs)

end

def readPoints (room : Nat) (cs : List Nat) : Except ReadError Json := do
  let (v, rest) ← value (2 * cs.length + 2) room (skipSpace cs)
  match skipSpace rest with
  | [] => .ok v
  | rest => .error (.malformed rest)

/-- Why octets are not JSON: the place of a failure in the text, octets that cannot be read, or too
many arrays and objects in one another. -/
inductive DecodeError where
  | malformed (position : Nat)
  | unreadable
  | tooDeep
deriving DecidableEq

def decode (room : Nat) (octets : List Nat) : Except DecodeError Json :=
  match decodePoints? octets with
  | none => .error .unreadable
  | some cs =>
    match readPoints room cs with
    | .ok v => .ok v
    | .error (.malformed rest) => .error (.malformed (cs.length - rest.length))
    | .error .integerTooLong => .error .unreadable
    | .error .tooDeep => .error .tooDeep

end AdSearch.Json
