/-!
# Quoted literals in a query

A text is cut into quoted literals and single characters.  A quotation mark opens a literal when
the same mark comes again later; one that never comes again is a plain character.
-/

namespace AdSearch.Query

/-- Whether a character can open a literal. -/
def isMark (c : Char) : Bool := c == '\'' || c == '"'

inductive Piece where
  | plain (c : Char)
  | literal (mark : Char) (inner : List Char)
deriving DecidableEq

def Piece.text : Piece → List Char
  | plain c => [c]
  | literal mark inner => mark :: inner ++ [mark]

/-- Puts a character in front of the text of a literal that comes first. -/
def consInner (c : Char) : List Piece → List Piece
  | .literal mark inner :: rest => .literal mark (c :: inner) :: rest
  | pieces => pieces

/-- The parts of a text, where an open literal ends at its mark. -/
def piecesFrom : Option Char → List Char → List Piece
  | _, [] => []
  | none, c :: cs =>
    if isMark c && cs.contains c then piecesFrom (some c) cs
    else .plain c :: piecesFrom none cs
  | some mark, c :: cs =>
    if c == mark then .literal mark [] :: piecesFrom none cs
    else consInner c (piecesFrom (some mark) cs)

def pieces (cs : List Char) : List Piece := piecesFrom none cs

/-- The text with every character of a literal, its marks included, replaced by a low line. -/
def mask (cs : List Char) : List Char :=
  (pieces cs).flatMap fun
    | .plain c => [c]
    | .literal _ inner => List.replicate (inner.length + 2) '_'

/-- The text inside quotation marks; other text stays as it is. -/
def unquote (cs : List Char) : List Char :=
  match cs with
  | [] => []
  | c :: rest =>
    if isMark c && !rest.isEmpty && rest.getLast? == some c then rest.dropLast else cs

end AdSearch.Query
