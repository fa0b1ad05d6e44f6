import AdSearch.Query.Predicate

/-!
# Splitting conditions

Conditions are separated by `AND`, `OR` and commas outside quoted literals and parentheses.  A piece
after a comma that starts no predicate of its own belongs to the piece before it, so that a list of
values needs no parentheses.
-/

namespace AdSearch.Query

open AdSearch.Text

inductive Token where
  | literal (text : List Char)
  | symbol (c : Char)
  | stray
  | word (text : List Char)
deriving DecidableEq

/-- The text of a token; a quotation mark that opens no literal is dropped. -/
def Token.text : Token → List Char
  | literal text => text
  | symbol c => [c]
  | stray => []
  | word text => text

/-- Puts a character in front of a word that comes first. -/
def consWord (c : Char) : List Token → List Token
  | .word w :: rest => .word (c :: w) :: rest
  | tokens => .word [c] :: tokens

/-- Whether a character is a token of its own. -/
def isSymbol (c : Char) : Bool := c == '(' || c == ')' || c == ',' || isBlank c

/-- The tokens of the parts of a text. -/
def tokensOf : List Piece → List Token
  | [] => []
  | .literal mark inner :: rest => .literal (Piece.literal mark inner).text :: tokensOf rest
  | .plain c :: rest =>
    if isMark c then .stray :: tokensOf rest
    else if isSymbol c then .symbol c :: tokensOf rest
    else consWord c (tokensOf rest)

def tokens (cs : List Char) : List Token := tokensOf (pieces cs)

/-- The character that stands for a comma between pieces. -/
def commaMark : Char := '\x00'

def Token.isConjunction : Token → Bool
  | word w => upper w == Keyword.andWord || upper w == Keyword.orWord
  | _ => false

/-- Puts text in front of the first chunk. -/
def consChunk (text : List Char) : List (List Char) → List (List Char)
  | chunk :: rest => (text ++ chunk) :: rest
  | [] => [text]

/-- The chunks between conjunctions, at a depth of parentheses, with the commas marked. -/
def chunksFrom : Nat → List Token → List (List Char)
  | _, [] => [[]]
  | depth, token :: rest =>
    if token = .symbol '(' then consChunk token.text (chunksFrom (depth + 1) rest)
    else if token = .symbol ')' then consChunk token.text (chunksFrom (depth - 1) rest)
    else if depth = 0 ∧ token.isConjunction then [] :: chunksFrom depth rest
    else if depth = 0 ∧ token = .symbol ',' then consChunk [commaMark] (chunksFrom depth rest)
    else consChunk token.text (chunksFrom depth rest)

/-- The text that belongs to the piece before, and the predicates after it. -/
def gluePieces : List (List Char) → List Char × List (List Char)
  | [] => ([], [])
  | piece :: rest =>
    let (tail, predicates) := gluePieces rest
    if startsPredicate piece then ([], (piece ++ tail) :: predicates)
    else if piece.isEmpty then (tail, predicates)
    else (',' :: ' ' :: piece ++ tail, predicates)

/-- The predicates among the pieces of a chunk. -/
def mergePieces : List (List Char) → List (List Char)
  | [] => []
  | piece :: rest =>
    if piece.isEmpty then mergePieces rest
    else
      let (tail, predicates) := gluePieces rest
      (piece ++ tail) :: predicates

def splitPredicates (cs : List Char) : List (List Char) :=
  (chunksFrom 0 (tokens cs)).flatMap fun chunk =>
    mergePieces ((splitOn commaMark chunk).map trim)

end AdSearch.Query
