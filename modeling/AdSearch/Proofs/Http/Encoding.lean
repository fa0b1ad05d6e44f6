import AdSearch.Http.Framework
import AdSearch.Number.Literal
import Mathlib.Algebra.Group.Nat.Defs

/-!
# Rows in JSON

A row keeps its shape in JSON: no key is dropped, nothing is left out, and only dates change, which
become their text.  A row can be sent unless one of its scalars cannot, or it is nested too deep.
-/

namespace AdSearch.Proofs.Http.Encoding

open AdSearch.Http

/-! ## What a value becomes -/

mutual

/-- What a value is in JSON. -/
inductive Encodes : Value → Json → Prop
  | null : Encodes .null .null
  | bool (b : Bool) : Encodes (.bool b) (.bool b)
  | int (i : Int) : Encodes (.int i) (.integer i)
  | float (x : Binary64) : Encodes (.float x) (.number x)
  | date (d : Date) : Encodes (.date d) (.text d.iso)
  | text (s : String) : Encodes (.text s) (.text s)
  | list {items : List Value} {js : List Json} : EncodesItems items js →
    Encodes (.list items) (.array js)
  | record {fields : List (String × Value)} {js : List (String × Json)} :
    EncodesFields fields js → Encodes (.record fields) (.object js)

/-- What the items of a list are in JSON, in order. -/
inductive EncodesItems : List Value → List Json → Prop
  | nil : EncodesItems [] []
  | cons {item : Value} {rest : List Value} {j : Json} {js : List Json} : Encodes item j →
    EncodesItems rest js → EncodesItems (item :: rest) (j :: js)

/-- What the fields of a record are in JSON, in order and under the same keys. -/
inductive EncodesFields : List (String × Value) → List (String × Json) → Prop
  | nil : EncodesFields [] []
  | cons {key : String} {item : Value} {rest : List (String × Value)} {j : Json}
    {js : List (String × Json)} : Encodes item j → EncodesFields rest js →
    EncodesFields ((key, item) :: rest) ((key, j) :: js)

end

/-! ## What can be sent -/

mutual

/-- The scalars in a value, in order. -/
def scalars : Value → List Value
  | .list items => itemScalars items
  | .record fields => fieldScalars fields
  | v => [v]

def itemScalars : List Value → List Value
  | [] => []
  | item :: rest => scalars item ++ itemScalars rest

def fieldScalars : List (String × Value) → List Value
  | [] => []
  | (_, item) :: rest => scalars item ++ fieldScalars rest

end

/-- A scalar can be sent if it is no float beyond the finite ones, and no integer with more digits
than are written. -/
def CanBeSent : Value → Prop
  | .int i => i.natAbs < 10 ^ Number.digitLimit
  | .float x => ∃ negative m e, x = .finite negative m e
  | _ => True

mutual

/-- How many lists and records of a value are in one another. -/
def depth : Value → Nat
  | .list items => itemDepth items + 1
  | .record fields => fieldDepth fields + 1
  | _ => 0

def itemDepth : List Value → Nat
  | [] => 0
  | item :: rest => max (depth item) (itemDepth rest)

def fieldDepth : List (String × Value) → Nat
  | [] => 0
  | (_, item) :: rest => max (depth item) (fieldDepth rest)

end

/-- Rows can be sent, where there is room for so many lists and records in one another. -/
def RowsCanBeSent (room : Nat) (rows : List Value) : Prop :=
  (∀ s ∈ itemScalars rows, CanBeSent s) ∧ itemDepth rows ≤ room

/-! ## Replies -/

end AdSearch.Proofs.Http.Encoding
