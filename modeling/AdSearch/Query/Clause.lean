import AdSearch.Error
import AdSearch.Query.Keyword
import AdSearch.Query.Literal
import AdSearch.Text.Scan

/-!
# The clauses of a query

A query in collapsed text is cut at its keywords.  The list of fields ends at the first `FROM` that
stands alone; the conditions end before an ordering, a limit or parameters outside quoted literals.
-/

namespace AdSearch.Query

open AdSearch.Text

/-- A keyword of which the first letter starts a word. -/
def opening? (keyword : List Char) (afterWord : Bool) (cs : List Char) : Option (List Char) :=
  if afterWord then none else (letters? keyword cs).map (·.2)

/-- A keyword of which the last letter ends a word. -/
def closing? (keyword : List Char) (cs : List Char) : Option (List Char) :=
  (letters? keyword cs).bind fun (_, rest) => if startsWord rest then none else some rest

/-- Whether `FROM` stands somewhere as a word. -/
def mentionsFrom (cs : List Char) : Bool :=
  (find? (fun afterWord here =>
    if afterWord then none else closing? Keyword.fromWord here) false cs).isSome

/-- The end of the list of fields: the text from `FROM` on. -/
def endOfFields? (here : List Char) : Option (List Char) :=
  (blanks? here).bind fun rest => (closing? Keyword.fromWord rest).map fun _ => rest

/-- The text between `SELECT` and `FROM`, which is not empty, and the text from `FROM` on. -/
def selectClause? (cs : List Char) : Option (List Char × List Char) :=
  (find? (fun afterWord here => do
    let rest ← opening? Keyword.selectWord afterWord here
    match ← blanks? rest with
    | [] => none
    | c :: cs =>
      let (before, rest) ← find? (fun _ here => endOfFields? here) (isWord c) cs
      some (c :: before, rest)) false cs).map (·.2)

def fieldNames (cs : List Char) : List (List Char) :=
  ((splitOn ',' cs).map trim).filter (!·.isEmpty)

/-- The resource after the first `FROM` that a word follows, and the text after it. -/
def sourceClause? (cs : List Char) : Option (List Char × List Char) :=
  (find? (fun afterWord here => do
    let rest ← opening? Keyword.fromWord afterWord here
    word? (← blanks? rest)) false cs).map (·.2)

/-- Whether an ordering, a limit or parameters come next. -/
def endsConditions (here : List Char) : Bool :=
  ((blanks? here).bind fun rest =>
    (closing? Keyword.limitWord rest).or <| (closing? Keyword.parametersWord rest).or <|
      ((letters? Keyword.orderWord rest).bind fun (_, rest) => blanks? rest).bind
        (closing? Keyword.byWord)).isSome

/-- The part of the conditions before an ordering, a limit or parameters. -/
def cutConditions (cs : List Char) : List Char :=
  match find? (fun _ here => if endsConditions here then some () else none) false (mask cs) with
  | some (before, _) => cs.take before.length
  | none => cs

/-- The conditions of a query, given the text after its resource. -/
def whereClause? (cs : List Char) : Option (List Char) :=
  (find? (fun afterWord here => do
    blanks? (← opening? Keyword.whereWord afterWord here)) true cs).map fun (_, rest) =>
      cutConditions rest

end AdSearch.Query
