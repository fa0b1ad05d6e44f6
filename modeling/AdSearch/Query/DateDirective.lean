import AdSearch.Query.Basic
import AdSearch.Query.Keyword
import AdSearch.Text.Scan

/-!
# Date directives

A directive is a dotted path that ends in `date`, followed by `DURING` and a keyword, or by
`BETWEEN` and two dates in single quotes.  The first directive of each form is taken out of the
conditions, the keyword first; the range of two dates wins.
-/

namespace AdSearch.Query

open AdSearch.Text

/-- The text after a dotted path that ends in `date`, where `seen` holds the current segment,
last letter first. -/
def afterDatePath? (seen : List Char) : List Char → Option (List Char)
  | [] => none
  | c :: cs =>
    if isWord c then afterDatePath? (c :: seen) cs
    else if c == '.' && !seen.isEmpty then afterDatePath? [] cs
    else if sameLetters seen.reverse Keyword.dateWord then some (c :: cs)
    else none

/-- A directive with a keyword: the keyword, and the rest. -/
def during? (afterWord : Bool) (cs : List Char) : Option (DateRange × List Char) := do
  if afterWord then none
  else
    let cs ← blanks? (← afterDatePath? [] cs)
    let (_, cs) ← letters? Keyword.duringWord cs
    let (keyword, rest) ← word? (← blanks? cs)
    some (.during (some (String.ofList keyword)), rest)

/-- A text in single quotes after blanks, and the rest. -/
def quotedDate? (cs : List Char) : Option (List Char × List Char) := do
  upTo? '\'' (← char? '\'' (← blanks? cs))

/-- A directive with two dates: the dates, trimmed, and the rest. -/
def between? (afterWord : Bool) (cs : List Char) : Option (DateRange × List Char) := do
  if afterWord then none
  else
    let cs ← blanks? (← afterDatePath? [] cs)
    let (_, cs) ← letters? Keyword.betweenWord cs
    let (start, cs) ← quotedDate? cs
    let (_, cs) ← letters? Keyword.andWord (← blanks? cs)
    let (stop, rest) ← quotedDate? cs
    some (.between (some (String.ofList (trim start))) (some (String.ofList (trim stop))), rest)

/-- Takes the first directive of a form out of a text. -/
def takeDirective (directive? : Bool → List Char → Option (DateRange × List Char))
    (range : Option DateRange) (cs : List Char) : Option DateRange × List Char :=
  match find? directive? false cs with
  | some (before, found, rest) => (some found, before ++ rest)
  | none => (range, cs)

/-- The date range of the conditions, and the conditions without their directives. -/
def takeDateRange (cs : List Char) : Option DateRange × List Char :=
  let (range, cs) := takeDirective during? none cs
  takeDirective between? range cs

end AdSearch.Query
