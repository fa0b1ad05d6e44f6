/-!
# Queries

A query names the fields to show, the resource to list, conditions on its records, and the days to
report on.
-/

namespace AdSearch

/-- How a condition compares a field with its value. -/
inductive Operator where
  | eq
  | ne
  | gt
  | lt
  | ge
  | le
  | isIn
  | notIn
  | like
deriving DecidableEq

namespace Operator

def text : Operator → String
  | eq => "="
  | ne => "!="
  | gt => ">"
  | lt => "<"
  | ge => ">="
  | le => "<="
  | isIn => "IN"
  | notIn => "NOT IN"
  | like => "LIKE"

def all : List Operator := [eq, ne, gt, lt, ge, le, isIn, notIn, like]

def ofText? (s : String) : Option Operator := all.find? fun op => op.text == s

/-- Whether the value of an operator lists several members. -/
def takesList : Operator → Bool
  | isIn => true
  | notIn => true
  | _ => false

end Operator

/-- A field, by its dotted path, compared with a value as it is written. -/
structure Condition where
  field : String
  operator : Operator
  value : String
deriving DecidableEq

/-- Which days a query reports on: those that a keyword names, or those between two dates.  The
parts are as written, and may be missing. -/
inductive DateRange where
  | during (keyword : Option String)
  | between (start stop : Option String)
deriving DecidableEq

structure Query where
  selectFields : List String
  source : String
  conditions : List Condition
  dateRange : Option DateRange
deriving DecidableEq

/-- The fields of a query as one text. -/
def Query.fieldMask (q : Query) : String := String.intercalate "," q.selectFields

end AdSearch
