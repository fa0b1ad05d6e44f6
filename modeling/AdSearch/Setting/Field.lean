import AdSearch.Number.Literal
import AdSearch.Text.Scan

/-!
# Fields given as text

Settings and the fields of a request may give numbers and truth values as text.  An integer may have
blanks around it, a plus sign, zeros in front, low lines between digits, and a fraction of zeros.
-/

namespace AdSearch

/-- What a field is not. -/
inductive FieldFault where
  | integerText
  | integerSize
  | integerFraction
  | integerKind
  | finiteNumber
  | numberText
  | truthText
  | textKind
  | textUnicode
  | textLength (least : Nat)
  | missing
  | objectKind
deriving DecidableEq

def FieldFault.code : FieldFault → String
  | integerText => "int_parsing"
  | integerSize => "int_parsing_size"
  | integerFraction => "int_from_float"
  | integerKind => "int_type"
  | finiteNumber => "finite_number"
  | numberText => "float_parsing"
  | truthText => "bool_parsing"
  | textKind => "string_type"
  | textUnicode => "string_unicode"
  | textLength _ => "string_too_short"
  | missing => "missing"
  | objectKind => "model_attributes_type"

def FieldFault.message : FieldFault → String
  | integerText => "Input should be a valid integer, unable to parse string as an integer"
  | integerSize => "Unable to parse input string as an integer, exceeded maximum size"
  | integerFraction => "Input should be a valid integer, got a number with a fractional part"
  | integerKind => "Input should be a valid integer"
  | finiteNumber => "Input should be a finite number"
  | numberText => "Input should be a valid number, unable to parse string as a number"
  | truthText => "Input should be a valid boolean, unable to interpret input"
  | textKind => "Input should be a valid string"
  | textUnicode =>
    "Input should be a valid string, unable to parse raw data as a unicode string"
  | textLength least => "String should have at least " ++ toString least ++
    (if least = 1 then " character" else " characters")
  | missing => "Field required"
  | objectKind => "Input should be a valid dictionary or object to extract fields from"

namespace Field

open AdSearch.Text

/-- Drops low lines that stand one by one inside a text. -/
def dropInnerLines (cs : List Char) : List Char :=
  if cs.head? != some '_' && cs.getLast? != some '_' &&
      !(cs.zip (cs.drop 1)).contains ('_', '_') then
    cs.filter (· != '_')
  else cs

/-- The text after zeros in front and low lines among them, where `last` is the character before;
it starts with another digit, with the zero before a point, or with the last zero of all. -/
def afterZeros? (last : Char) : List Char → Option (List Char)
  | [] => some [last]
  | c :: cs =>
    if c == '0' || c == '_' then afterZeros? c cs
    else if c == '.' then some (last :: c :: cs)
    else if c.isDigit then some (c :: cs)
    else none

/-- Drops the zeros in front of an unsigned number. -/
def dropLeadingZeros? : List Char → Option (List Char)
  | [] => none
  | c :: cs =>
    if c == '0' then afterZeros? c cs
    else if c == '-' || c.isDigit then some (c :: cs)
    else none

/-- Drops a point and zeros after it. -/
def dropZeroFraction (cs : List Char) : List Char :=
  if cs.contains '.' && ((cs.dropWhile (· != '.')).drop 1).all (· == '0') then
    cs.takeWhile (· != '.')
  else cs

/-- The integer of ASCII digits after an optional minus sign, without zeros in front. -/
def plainInteger (cs : List Char) : Except FieldFault Int :=
  let (negative, digits) := match cs with
    | '-' :: rest => (true, rest)
    | _ => (false, cs)
  if digits.isEmpty || !digits.all Char.isDigit ||
      (digits.head? == some '0' && digits.length != 1) then .error .integerText
  else if Number.digitLimit < cs.length then .error .integerSize
  else .ok (if negative then -(Number.digitsValue digits : Int) else Number.digitsValue digits)

/-- Drops a plus sign, which no minus sign may follow. -/
def dropPlus? : List Char → Option (List Char)
  | '+' :: '-' :: _ => none
  | '+' :: cs => some cs
  | cs => some cs

def readInteger (s : String) : Except FieldFault Int :=
  match (dropPlus? (Number.trimMargin s.toList)).bind dropLeadingZeros? with
  | none => .error .integerText
  | some cs => plainInteger (dropInnerLines (dropZeroFraction cs))

/-- The number that a field writes, in ASCII. -/
def readNumber (s : String) : Except FieldFault Binary64 :=
  let cs := dropInnerLines (Number.trimMargin s.toList)
  match if cs.all fun c => c.toNat < 128 then Number.readPlain? cs else none with
  | some x => .ok x
  | none => .error .numberText

def trueTexts : List String := ["1", "on", "t", "true", "y", "yes"]

def falseTexts : List String := ["0", "off", "f", "false", "n", "no"]

/-- The truth value that a field writes, in any case of ASCII letters. -/
def readBool (s : String) : Except FieldFault Bool :=
  let lowered := String.ofList (s.toList.map Char.toLower)
  if trueTexts.contains lowered then .ok true
  else if falseTexts.contains lowered then .ok false
  else .error .truthText

/-- A path without empty segments and segments of one dot. -/
def normalPath (s : String) : String :=
  let cs := s.toList
  let root := match cs with
    | '/' :: '/' :: '/' :: _ => ['/']
    | '/' :: '/' :: _ => ['/', '/']
    | '/' :: _ => ['/']
    | _ => []
  let parts := (splitOn '/' cs).filter fun part => !part.isEmpty && part != ['.']
  let path := root ++ List.intercalate ['/'] parts
  if path.isEmpty then "." else String.ofList path

end Field

end AdSearch
