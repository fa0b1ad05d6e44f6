import AdSearch.Query.Basic
import AdSearch.Query.Literal
import AdSearch.Value.Number
import AdSearch.Value.Text

/-!
# Conditions on records

A condition on a path that leads nowhere is false.  Equality and membership compare labels, the
order compares numbers, and a pattern is found in a label as pieces in order, in any letter case.
-/

namespace AdSearch

open AdSearch.Text

/-- The members of a written list: with or without parentheses, each with or without quotation
marks. -/
def listMembers (value : String) : List String :=
  let cs := trim value.toList
  let inner := if cs.head? == some '(' && cs.getLast? == some ')' then (cs.drop 1).dropLast else cs
  (splitOn ',' inner).map fun item => String.ofList (Query.unquote (trim item))

/-- The rest of a text after a piece, in any letter case. -/
def afterPiece? : List Char → List Char → Option (List Char)
  | [], cs => some cs
  | _ :: _, [] => none
  | p :: ps, c :: cs => if sameLetter p c then afterPiece? ps cs else none

/-- The rest of a text after the first place where a piece occurs. -/
def findPiece? (piece : List Char) : List Char → Option (List Char)
  | [] => afterPiece? piece []
  | c :: cs =>
    match afterPiece? piece (c :: cs) with
    | some rest => some rest
    | none => findPiece? piece cs

/-- Whether pieces occur in a text one after another. -/
def holdsPieces : List (List Char) → List Char → Bool
  | [], _ => true
  | piece :: pieces, cs =>
    match findPiece? piece cs with
    | some rest => holdsPieces pieces rest
    | none => false

/-- Whether a text matches a pattern, in which a percent sign stands for any text. -/
def isLike (pattern label : String) : Bool :=
  holdsPieces (splitOn '%' pattern.toList) label.toList

/-- Whether the number of a value stands in a relation to the number that a text writes. -/
def compares (related : Binary64 → Binary64 → Bool) (v : Value) (value : String) :
    Except Failure Bool := do
  let left ← v.toNumber
  .ok (related left ((Number.readNumber? value.toList).getD .nan))

/-- Whether a value satisfies an operator with a written value. -/
def Operator.holds (op : Operator) (v : Value) (value : String) : Except Failure Bool :=
  match op with
  | eq => v.label.map (· == value)
  | ne => v.label.map (· != value)
  | gt => compares (fun x y => y.lt x) v value
  | lt => compares (fun x y => x.lt y) v value
  | ge => compares (fun x y => y.le x) v value
  | le => compares (fun x y => x.le y) v value
  | isIn => v.label.map fun label => (listMembers value).contains label
  | notIn => v.label.map fun label => !(listMembers value).contains label
  | like => v.label.map (isLike value)

def Condition.holds (c : Condition) (r : Value) : Except Failure Bool :=
  match r.at? c.field with
  | none => .ok false
  | some v => c.operator.holds v c.value

/-- Whether a record satisfies every condition; the first that fails decides. -/
def holdsAll (r : Value) : List Condition → Except Failure Bool
  | [] => .ok true
  | c :: rest => do
    if ← c.holds r then holdsAll r rest else .ok false

/-- The records that satisfy every condition, in order. -/
def filterRecords (conditions : List Condition) : List Value → Except Failure (List Value)
  | [] => .ok []
  | r :: rest => do
    let keep ← holdsAll r conditions
    let tail ← filterRecords conditions rest
    .ok (if keep then r :: tail else tail)

end AdSearch
