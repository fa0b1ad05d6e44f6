import AdSearch.Log.Logged
import AdSearch.Query.Clause
import AdSearch.Query.DateDirective
import AdSearch.Query.Split

/-!
# Reading a query

Blanks only separate words: a query is read from its collapsed text.  Conditions that are not
understood are dropped with a warning.
-/

namespace AdSearch.Query

open AdSearch.Text AdSearch.Log

def warn (message : String) : Logged SearchError Unit :=
  .write ⟨.warning, "src.gaql.parser", message⟩

/-- The condition that a predicate states, if any. -/
def condition? (text : List Char) : Logged SearchError (Option Condition) :=
  match Predicate.read text with
  | .condition c => pure (some c)
  | .unrecognised => do
    warn ("Dropping unrecognised WHERE predicate: " ++ String.ofList (quoteChars text))
    pure none
  | .strayDate => do
    warn ("Ignoring date predicate outside DURING/BETWEEN: " ++ String.ofList (quoteChars text))
    pure none
  | .unknownOperator spelled => .ofExcept (.error (.failure (.unknownOperator spelled)))

def readPredicates : List (List Char) → Logged SearchError (List Condition)
  | [] => pure []
  | text :: rest => do
    let head ← condition? text
    let tail ← readPredicates rest
    pure (head.toList ++ tail)

/-- The conditions and the date range of the text after `WHERE`. -/
def readConditions (cs : List Char) : Logged SearchError (List Condition × Option DateRange) := do
  let (range, cs) := takeDateRange cs
  let found ← readPredicates (splitPredicates cs)
  pure (found, range)

def readCollapsed (cs : List Char) : Logged SearchError Query :=
  match selectClause? cs with
  | none =>
    .ofExcept (.error (.query (if mentionsFrom cs then .missingSelect else .missingFrom)))
  | some (fields, rest) =>
    let names := fieldNames fields
    if names.isEmpty then .ofExcept (.error (.query .noFields))
    else match sourceClause? rest with
      | none => .ofExcept (.error (.query .missingFrom))
      | some (source, rest) => do
        let (found, range) ← readConditions ((whereClause? rest).getD [])
        pure ⟨names.map String.ofList, String.ofList source, found, range⟩

def parse (s : String) : Logged SearchError Query := readCollapsed (collapse s.toList)

end AdSearch.Query
