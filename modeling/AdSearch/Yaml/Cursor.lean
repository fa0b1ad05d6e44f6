/-!
# Places in a document

A cursor is a place in a text: the characters from there on, and the line and the column of the
first of them.  Indentation is measured in columns, and a key ends on the line on which it starts.
-/

namespace AdSearch.Yaml

/-- Whether a character ends a line. -/
def isBreak (c : Char) : Bool :=
  c == '\n' || c == '\u0085' || c == '\u2028' || c == '\u2029'

/-- Whether a character separates: a space, a tab or the end of a line. -/
def isSeparator (c : Char) : Bool := c == ' ' || c == '\t' || isBreak c

/-- Whether a text ends or goes on with a separator. -/
def startsApart : List Char → Bool
  | [] => true
  | c :: _ => isSeparator c

structure Cursor where
  line : Nat
  column : Nat
  index : Nat
  rest : List Char

namespace Cursor

def start (cs : List Char) : Cursor := ⟨0, 0, 0, cs⟩

/-- The place after the next character; a byte order mark takes no column. -/
def next (c : Cursor) : Cursor :=
  match c.rest with
  | [] => c
  | ch :: rest =>
    if isBreak ch then ⟨c.line + 1, 0, c.index + 1, rest⟩
    else if ch == '\uFEFF' then ⟨c.line, c.column, c.index + 1, rest⟩
    else ⟨c.line, c.column + 1, c.index + 1, rest⟩

def advance : Nat → Cursor → Cursor
  | 0, c => c
  | n + 1, c => advance n c.next

def peek? (c : Cursor) : Option Char := c.rest.head?

/-- Whether the next character is the given one. -/
def isAt (c : Cursor) (ch : Char) : Bool := c.peek? == some ch

/-- Whether the next character is the given one and stands apart from what follows. -/
def isAtMark (c : Cursor) (ch : Char) : Bool := c.isAt ch && startsApart (c.rest.drop 1)

/-- The characters as long as a condition holds, and the place after them. -/
def span (p : Char → Bool) (c : Cursor) : List Char × Cursor :=
  let run := c.rest.takeWhile p
  (run, c.advance run.length)

/-- Whether a line starts here with the given three characters, which stand apart. -/
def isAtRule (c : Cursor) (ch : Char) : Bool :=
  c.column == 0 && c.rest.take 3 == [ch, ch, ch] && startsApart (c.rest.drop 3)

/-- Whether a document starts or ends here. -/
def isAtBoundary (c : Cursor) : Bool := c.isAtRule '-' || c.isAtRule '.'

def isDone (c : Cursor) : Bool := c.rest.isEmpty || c.isAtBoundary

end Cursor

/-- How many characters come before the next content: spaces, comments and ends of lines. -/
def gapLength (inComment : Bool) : List Char → Nat
  | [] => 0
  | c :: rest =>
    if isBreak c then gapLength false rest + 1
    else if inComment || c == '#' then gapLength true rest + 1
    else if c == ' ' then gapLength false rest + 1
    else 0

def Cursor.skipGap (c : Cursor) : Cursor := c.advance (gapLength false c.rest)

/-- The longest key, with the spaces after it. -/
def keyLimit : Nat := 1024

/-- The place after the colon here, if it makes a key of what stands between `start` and here. -/
def Cursor.afterColon? (inFlow : Bool) (c start : Cursor) : Option Cursor :=
  let c := (c.span (· == ' ')).2
  let isColon := if inFlow then c.isAt ':' else c.isAtMark ':'
  if isColon && c.line == start.line && c.index - start.index ≤ keyLimit then some c.next else none

end AdSearch.Yaml
