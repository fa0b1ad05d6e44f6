import AdSearch.Text.CaseTable

/-!
# Letters in any case

`caseKey` sends all cases of one letter to one representative, which is how keywords and patterns
are compared.  The other two maps are the upper and lower case of a letter as far as the result is
spelled in ASCII, which is all that a comparison with an ASCII word can see.
-/

namespace AdSearch.Text

/-- How far a letter moves to its representative. -/
def caseShift : List CaseRun → Nat → Int
  | [], _ => 0
  | run :: rest, n =>
    if n < run.first then 0
    else if n ≤ run.last && (n - run.first) % run.step == 0 then run.shift
    else caseShift rest n

/-- The representative of a letter among its cases. -/
def caseKey (c : Char) : Char := Char.ofNat (c.toNat + caseShift caseRuns c.toNat).toNat

/-- Whether two characters are the same letter in some case. -/
def sameLetter (a b : Char) : Bool := caseKey a == caseKey b

/-- Whether two texts agree letter by letter, in any case. -/
def sameLetters (a b : List Char) : Bool := a.map caseKey == b.map caseKey

/-- The upper case of a letter wherever that is ASCII; a ligature becomes its letters. -/
def upperLetters (c : Char) : List Char :=
  match c.toNat with
  | 0xDF => ['S', 'S']
  | 0x131 => ['I']
  | 0x17F => ['S']
  | 0xFB00 => ['F', 'F']
  | 0xFB01 => ['F', 'I']
  | 0xFB02 => ['F', 'L']
  | 0xFB03 => ['F', 'F', 'I']
  | 0xFB04 => ['F', 'F', 'L']
  | 0xFB05 => ['S', 'T']
  | 0xFB06 => ['S', 'T']
  | _ => [c.toUpper]

/-- A text in upper case, as far as that is ASCII. -/
def upper (cs : List Char) : List Char := cs.flatMap upperLetters

/-- The lower case of a letter wherever that is ASCII; the kelvin sign is a `k`. -/
def lowerLetter (c : Char) : Char := if c.toNat == 0x212A then 'k' else c.toLower

/-- A text in lower case, as far as that is ASCII. -/
def lower (cs : List Char) : List Char := cs.map lowerLetter

end AdSearch.Text
