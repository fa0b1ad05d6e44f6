import AdSearch.Error

/-!
# Pages

A page token is the decimal text of the offset at which a page starts.  Nothing else is remembered
between two pages.
-/

namespace AdSearch

structure Page (α : Type) where
  items : List α
  nextToken : Option String
  totalCount : Nat

/-- The most digits of an offset. -/
def offsetDigitLimit : Nat := 4300

/-- The offset that a token names; no token, or an empty one, names the start. -/
def decodeToken : Option String → Except SearchError Nat
  | none => .ok 0
  | some token =>
    let cs := token.toList
    if cs.isEmpty then .ok 0
    else if !cs.all Char.isDigit then .error (.request (.invalidPageToken token))
    else if offsetDigitLimit < cs.length then
      .error (.failure (.integerTooLongToRead cs.length))
    else .ok (cs.foldl (fun n c => 10 * n + (c.toNat - 48)) 0)

/-- The page of `size` items at the offset that a token names.  A size less than one is a fault. -/
def paginate {α : Type} (items : List α) (size : Int) (token : Option String) :
    Except SearchError (Page α) :=
  if size < 1 then .error (.ofFault (.nonPositivePageSize size))
  else do
    let offset ← decodeToken token
    let stop := offset + size.toNat
    .ok ⟨(items.drop offset).take size.toNat,
      if stop < items.length then some (toString stop) else none, items.length⟩

end AdSearch
