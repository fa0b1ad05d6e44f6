/-!
# Nodes of a document

A document is a tree of scalars, lists and mappings.  A node may be marked with an anchor, by which
an alias refers to it later, and with a tag, which fixes its kind.
-/

namespace AdSearch.Yaml

/-- Why a text is not a document, or a scalar in it has no value. -/
inductive Fault where
  | malformed
  | yearBeyondRange
  | monthBeyondYear
  | dayBeyondMonth
  | integerTooLong (digits : Nat)
  | noDigits (base : Nat)
deriving DecidableEq

/-- The text of a fault; a malformed document has none. -/
def Fault.message : Fault → String
  | malformed => ""
  | yearBeyondRange => "year 0 is out of range"
  | monthBeyondYear => "month must be in 1..12"
  | dayBeyondMonth => "day is out of range for month"
  | integerTooLong digits =>
    "Exceeds the limit (4300 digits) for integer string conversion: value has " ++
      toString digits ++ " digits; use sys.set_int_max_str_digits() to increase the limit"
  | noDigits base => "invalid literal for int() with base " ++ toString base ++ ": ''"

/-- The kind that a tag gives to a node. -/
inductive Tag where
  | untyped
  | text
  | integer
  | float
  | bool
  | null
  | date
  | list
  | record
deriving DecidableEq

def Tag.names : List (String × Tag) := [
  ("str", text), ("int", integer), ("float", float), ("bool", bool), ("null", null),
  ("timestamp", date), ("seq", list), ("map", record)]

/-- The anchor and the tag in front of a node. -/
structure Marks where
  anchor : Option String
  tag : Option Tag
deriving DecidableEq

namespace Marks

def none : Marks := ⟨.none, .none⟩

/-- Two groups of marks as one, with at most one anchor and one tag. -/
def join? (a b : Marks) : Option Marks :=
  if (a.anchor.isSome && b.anchor.isSome) || (a.tag.isSome && b.tag.isSome) then .none
  else some ⟨a.anchor <|> b.anchor, a.tag <|> b.tag⟩

end Marks

/-- A node of a document; a scalar is plain if it has no quotation marks and is no block. -/
inductive Node where
  | scalar (text : String) (plain : Bool)
  | list (items : List Node)
  | record (entries : List (Node × Node))
  | ref (anchor : String)
  | marked (marks : Marks) (content : Node)

namespace Node

/-- The node that stands where nothing is written. -/
def empty : Node := scalar "" true

/-- A node under its marks; a reference takes none. -/
def under (marks : Marks) (node : Node) : Except Fault Node :=
  if marks = Marks.none then .ok node
  else match node with
    | ref _ => .error .malformed
    | node => .ok (marked marks node)

end Node

end AdSearch.Yaml
