import AdSearch.Yaml.Cursor
import AdSearch.Yaml.Node

/-!
# The text of scalars

A scalar is plain, in quotation marks, or a block of lines.  The end of a line inside a plain or
quoted scalar reads as a space, and blank lines read as ends of lines.
-/

namespace AdSearch.Yaml

/-- A part of a document, and the place after it. -/
abbrev Found (α : Type) := α × Cursor

/-- The end of a line as it counts in a scalar. -/
def lineEnd (c : Char) : Char := if c == '\u0085' then '\n' else c

/-- What the ends of lines between two words of a scalar read as. -/
def foldBreaks (gap : List Char) : List Char :=
  match (gap.filter isBreak).map lineEnd with
  | ['\n'] => [' ']
  | '\n' :: more => more
  | breaks => breaks

/-! ## Plain scalars -/

/-- The characters that start no plain scalar. -/
def indicators : List Char :=
  ['-', '?', ':', ',', '[', ']', '\x7b', '\x7d', '#', '&', '*', '!', '|', '>', '\'', '"', '%', '@',
    '\x60']

/-- The characters that end a plain scalar inside brackets. -/
def flowMarks : List Char := [',', '?', '[', ']', '\x7b', '\x7d']

/-- The characters before which a colon ends a plain scalar inside brackets. -/
def flowEnds : List Char := [',', '[', ']', '\x7b', '\x7d']

def startsPlain (inFlow : Bool) : List Char → Bool
  | [] => false
  | c :: rest =>
    if isSeparator c then false
    else if indicators.contains c then
      !startsApart rest && (c == '-' || (!inFlow && (c == '?' || c == ':')))
    else true

/-- Whether a colon ends a plain scalar before what follows. -/
def endsKey (inFlow : Bool) (rest : List Char) : Bool :=
  startsApart rest || (inFlow && (rest.head?.any fun c => flowEnds.contains c))

/-- How many characters a word of a plain scalar has. -/
def plainLength (inFlow : Bool) : List Char → Nat
  | [] => 0
  | c :: rest =>
    if isSeparator c || (c == ':' && endsKey inFlow rest) || (inFlow && flowMarks.contains c) then 0
    else plainLength inFlow rest + 1

/-- What stands between two words of a plain scalar, and the place after it. -/
def plainGap (c : Cursor) : List Char × Cursor :=
  let (spaces, c) := c.span (· == ' ')
  if c.peek?.any isBreak then
    let (gap, c) := c.span fun ch => ch == ' ' || isBreak ch
    (foldBreaks gap, c)
  else (spaces, c)

/-- The words of a plain scalar from here on.  Outside brackets they stop at a column before
`floor`. -/
def plainWords (inFlow : Bool) (floor : Nat) : Nat → Cursor → List Char × Cursor
  | 0, c => ([], c)
  | fuel + 1, c =>
    if c.isAt '#' then ([], c)
    else
      let n := plainLength inFlow c.rest
      if n = 0 then ([], c)
      else
        let word := c.rest.take n
        let (gap, after) := plainGap (c.advance n)
        if gap.isEmpty || after.isAtBoundary || (!inFlow && after.column < floor) then (word, after)
        else
          let (more, last) := plainWords inFlow floor fuel after
          (if more.isEmpty then word else word ++ gap ++ more, last)

/-! ## Quoted scalars -/

/-- What a letter after a backslash stands for. -/
def escapes : List (Char × Char) := [
  ('0', '\x00'), ('a', '\x07'), ('b', '\x08'), ('t', '\t'), ('\t', '\t'), ('n', '\n'),
  ('v', '\x0b'), ('f', '\x0c'), ('r', '\r'), ('e', '\x1b'), (' ', ' '), ('"', '"'), ('\\', '\\'),
  ('/', '/'), ('N', '\u0085'), ('_', '\u00a0'), ('L', '\u2028'), ('P', '\u2029')]

/-- How many hexadecimal digits follow a letter after a backslash. -/
def escapeDigits? : Char → Option Nat
  | 'x' => some 2
  | 'u' => some 4
  | 'U' => some 8
  | _ => none

def hexDigit? (c : Char) : Option Nat :=
  if c.isDigit then some (c.toNat - 48)
  else if 'a' ≤ c ∧ c ≤ 'f' then some (c.toNat - 87)
  else if 'A' ≤ c ∧ c ≤ 'F' then some (c.toNat - 55)
  else none

/-- The character with a number in hexadecimal digits. -/
def hexChar? (n : Nat) (cs : List Char) : Option Char := do
  let digits ← (cs.take n).mapM hexDigit?
  let code := digits.foldl (fun total d => 16 * total + d) 0
  if digits.length = n ∧ code.isValidChar then some (Char.ofNat code) else none

/-- What a backslash stands for, and the place after its escape.  At the end of a line it joins the
next one. -/
def readEscape (c : Cursor) : Except Fault (Found (List Char)) :=
  match c.rest with
  | [] => .error .malformed
  | ch :: rest =>
    match escapes.lookup ch, escapeDigits? ch with
    | some found, _ => .ok ([found], c.next)
    | none, some n =>
      match hexChar? n rest with
      | some found => .ok ([found], c.advance (n + 1))
      | none => .error .malformed
    | none, none =>
      if isBreak ch then
        let (gap, after) := c.next.span isSeparator
        if after.isAtBoundary then .error .malformed
        else .ok ((gap.filter isBreak).map lineEnd, after)
      else .error .malformed

/-- What separators in a quoted scalar read as. -/
def quotedGap (c : Cursor) : Except Fault (Found (List Char)) :=
  let (gap, after) := c.span isSeparator
  if after.rest.isEmpty then .error .malformed
  else if gap.any isBreak then
    if after.isAtBoundary then .error .malformed else .ok (foldBreaks gap, after)
  else .ok (gap, after)

/-- A quoted scalar after its opening quotation mark. -/
def quotedText (quote : Char) : Nat → Cursor → Except Fault (Found (List Char))
  | 0, _ => .error .malformed
  | fuel + 1, c =>
    match c.rest with
    | [] => .error .malformed
    | ch :: rest => do
      if ch == quote then
        if quote == '\'' && rest.head? == some '\'' then
          let (more, last) ← quotedText quote fuel (c.advance 2)
          .ok ('\'' :: more, last)
        else .ok ([], c.next)
      else
        let (piece, after) ←
          if isSeparator ch then quotedGap c
          else if quote == '"' && ch == '\\' then readEscape c.next
          else .ok ([ch], c.next)
        let (more, last) ← quotedText quote fuel after
        .ok (piece ++ more, last)

/-! ## Block scalars -/

/-- Which ends of lines stay at the end of a block. -/
inductive Chomp where
  | strip
  | clip
  | keep
deriving DecidableEq

/-- The mark for the end of a block. -/
def chomp? : List Char → Option (Chomp × List Char)
  | '+' :: rest => some (.keep, rest)
  | '-' :: rest => some (.strip, rest)
  | _ => none

/-- The mark for the indentation of a block. -/
def increment? : List Char → Option (Nat × List Char)
  | c :: rest => if '1' ≤ c ∧ c ≤ '9' then some (c.toNat - 48, rest) else none
  | [] => none

/-- The marks after the sign of a block, in either order. -/
def blockMarks (cs : List Char) : Chomp × Option Nat × List Char :=
  match chomp? cs with
  | some (chomp, rest) =>
    match increment? rest with
    | some (n, rest) => (chomp, some n, rest)
    | none => (chomp, none, rest)
  | none =>
    match increment? cs with
    | some (n, rest) =>
      match chomp? rest with
      | some (chomp, rest) => (chomp, some n, rest)
      | none => (.clip, some n, rest)
    | none => (.clip, none, cs)

/-- The widest run of spaces at the start of a line, in lines of spaces. -/
def widestMargin (here widest : Nat) : List Char → Nat
  | [] => max here widest
  | c :: rest =>
    if isBreak c then widestMargin 0 (max here widest) rest
    else widestMargin (here + 1) widest rest

/-- The ends of blank lines, and the place where the next line of a block starts. -/
def blankLines (indent : Nat) : Nat → Cursor → List Char × Cursor
  | 0, c => ([], c)
  | fuel + 1, c =>
    let margin := (c.rest.takeWhile (· == ' ')).length
    let c := c.advance (min margin (indent - c.column))
    match c.rest with
    | ch :: _ =>
      if isBreak ch then
        let (more, last) := blankLines indent fuel c.next
        (lineEnd ch :: more, last)
      else ([], c)
    | [] => ([], c)

/-- What a block ends with. -/
structure BlockEnd where
  lastBreak : List Char
  blanks : List Char
  place : Cursor

/-- Whether the next character is a space or a tab. -/
def isAtSpace (c : Cursor) : Bool := c.isAt ' ' || c.isAt '\t'

/-- The lines of a block without the ends of its last lines. -/
def blockLines (folded : Bool) (indent : Nat) :
    Nat → List Char → List Char → Cursor → List Char × BlockEnd
  | 0, lastBreak, blanks, c => ([], ⟨lastBreak, blanks, c⟩)
  | fuel + 1, lastBreak, blanks, c =>
    if c.column = indent ∧ !c.rest.isEmpty then
      let (line, atEnd) := c.span fun ch => !isBreak ch
      let lineBreak := (atEnd.peek?.map lineEnd).toList
      let (following, after) := blankLines indent fuel atEnd.next
      let (more, last) := blockLines folded indent fuel lineBreak following after
      if after.column = indent ∧ !after.rest.isEmpty then
        let joint :=
          if folded && lineBreak == ['\n'] && !isAtSpace c && !isAtSpace after then
            if following.isEmpty then [' '] else []
          else lineBreak
        (blanks ++ line ++ joint ++ more, last)
      else (blanks ++ line ++ more, last)
    else ([], ⟨lastBreak, blanks, c⟩)

/-- A block scalar from its sign on, in a place where content starts at column `floor`. -/
def blockText (fuel floor : Nat) (c : Cursor) : Except Fault (Found (List Char)) :=
  let folded := c.isAt '>'
  let (chomp, increment, rest) := blockMarks (c.rest.drop 1)
  let c := c.advance (c.rest.length - rest.length)
  let margin := rest.takeWhile (· == ' ')
  let afterMargin := rest.drop margin.length
  let comment :=
    if afterMargin.head? == some '#' then afterMargin.takeWhile fun ch => !isBreak ch else []
  let ending := afterMargin.drop comment.length
  if !(startsApart rest && ending.head?.all isBreak) || rest.head? == some '\t' then
    .error .malformed
  else
    let c := c.advance (margin.length + comment.length + 1)
    let least := max floor 1
    let (indent, blanks, c) :=
      match increment with
      | some n =>
        let indent := least + n - 1
        let (blanks, c) := blankLines indent fuel c
        (indent, blanks, c)
      | none =>
        let (gap, c) := c.span fun ch => ch == ' ' || isBreak ch
        (max least (widestMargin 0 0 gap), (gap.filter isBreak).map lineEnd, c)
    let (text, last) := blockLines folded indent fuel [] blanks c
    let ending := match chomp with
      | .strip => []
      | .clip => last.lastBreak
      | .keep => last.lastBreak ++ last.blanks
    .ok (text ++ ending, last.place)

end AdSearch.Yaml
