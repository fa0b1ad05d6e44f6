import AdSearch.Query.Basic
import AdSearch.Query.Keyword
import AdSearch.Query.Literal
import AdSearch.Text.Scan

/-!
# Predicates

A predicate is a field, an operator and a value.  The field is a dotted path of words; the operator
is a word in any case or a symbol; the value is the rest of the text, on one line.
-/

namespace AdSearch.Query

open AdSearch.Text

/-- The dotted path at the start of a text, and the rest. -/
def fieldPath? (cs : List Char) : Option (List Char × List Char) :=
  let isPath := fun c => isWord c || c == '.'
  let path := cs.takeWhile isPath
  if (splitOn '.' path).all (!·.isEmpty) then some (path, cs.dropWhile isPath) else none

/-- A word that ends where it ends: its spelling, and the rest. -/
def wholeWord? (keyword : List Char) (cs : List Char) : Option (List Char × List Char) :=
  (letters? keyword cs).bind fun (spelled, rest) =>
    if startsWord rest then none else some (spelled, rest)

/-- `NOT` and `IN`: their spelling with one space between them, and the rest. -/
def notIn? (cs : List Char) : Option (List Char × List Char) := do
  let (negation, cs) ← letters? Keyword.notWord cs
  let (member, rest) ← wholeWord? Keyword.inWord (← blanks? cs)
  some (negation ++ ' ' :: member, rest)

/-- An operator in words after blanks: its spelling, and the rest. -/
def wordOperator? (cs : List Char) : Option (List Char × List Char) := do
  let cs ← blanks? cs
  (notIn? cs).or <| (wholeWord? Keyword.inWord cs).or (wholeWord? Keyword.likeWord cs)

/-- The symbols at the start of a text, the longest first, each with the rest. -/
def symbolOperators : List Char → List (Operator × List Char)
  | '>' :: '=' :: rest => [(.ge, rest), (.gt, '=' :: rest)]
  | '<' :: '=' :: rest => [(.le, rest), (.lt, '=' :: rest)]
  | '!' :: '=' :: rest => [(.ne, rest)]
  | '=' :: rest => [(.eq, rest)]
  | '>' :: rest => [(.gt, rest)]
  | '<' :: rest => [(.lt, rest)]
  | _ => []

/-- Whether a text starts with a field and an operator. -/
def startsPredicate (cs : List Char) : Bool :=
  match fieldPath? cs with
  | none => false
  | some (_, rest) => (wordOperator? rest).isSome || !(symbolOperators (trimLeft rest)).isEmpty

/-- A value: text on one line, without the blanks around it. -/
def value? (cs : List Char) : Option (List Char) :=
  let value := trimLeft cs
  if value.isEmpty || value.contains '\n' then none else some (trimRight value)

/-- What a text among the conditions turns out to be. -/
inductive Predicate where
  | condition (c : Condition)
  | unrecognised
  | strayDate
  | unknownOperator (spelled : String)
deriving DecidableEq

/-- Whether the last segment of a path is `date`. -/
def isDatePath (path : List Char) : Bool :=
  (splitOn '.' path).getLast?.any fun segment => lower segment == Keyword.dateWord

def Predicate.ofParts (field : List Char) (op : Operator) (value : List Char) : Predicate :=
  let value := if op.takesList then value else unquote value
  if value.isEmpty then unrecognised
  else if isDatePath field then strayDate
  else condition ⟨String.ofList field, op, String.ofList value⟩

/-- Reads a text as a field, an operator in words and a value. -/
def wordPredicate? (field rest : List Char) : Option Predicate := do
  let (spelled, rest) ← wordOperator? rest
  let value ← value? rest
  let spelled := String.ofList (upper spelled)
  match Operator.ofText? spelled with
  | some op => some (.ofParts field op value)
  | none => some (.unknownOperator spelled)

/-- Reads a text as a field, a symbol and a value; a longer symbol is preferred if a value
follows it. -/
def symbolPredicate? (field rest : List Char) : Option Predicate :=
  (symbolOperators (trimLeft rest)).findSome? fun (op, rest) =>
    (value? rest).map (Predicate.ofParts field op)

def Predicate.read (cs : List Char) : Predicate :=
  ((fieldPath? cs).bind fun (field, rest) =>
    (wordPredicate? field rest).or (symbolPredicate? field rest)).getD unrecognised

end AdSearch.Query
