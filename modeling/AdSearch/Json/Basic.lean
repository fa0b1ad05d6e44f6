import AdSearch.Keyed
import AdSearch.Number.Binary64
import AdSearch.Text.Encoding

/-!
# JSON values

Integers are kept apart from other numbers, and the fields of an object are in order.  A text that
names unpaired surrogates is kept as its code points.
-/

namespace AdSearch

inductive Json where
  | null
  | bool (b : Bool)
  | integer (i : Int)
  | number (x : Binary64)
  | text (s : String)
  | unpaired (points : List Nat)
  | array (items : List Json)
  | object (fields : List (String × Json))

namespace Json

instance : Inhabited Json := ⟨null⟩

mutual

def decEq (a b : Json) : Decidable (a = b) :=
  if h : a.ctorIdx = b.ctorIdx then
    match a, b, h with
    | null, null, _ => .isTrue rfl
    | bool x, bool y, _ => decidable_of_iff (x = y) (by simp)
    | integer x, integer y, _ => decidable_of_iff (x = y) (by simp)
    | number x, number y, _ => decidable_of_iff (x = y) (by simp)
    | text x, text y, _ => decidable_of_iff (x = y) (by simp)
    | unpaired xs, unpaired ys, _ => decidable_of_iff (xs = ys) (by simp)
    | array xs, array ys, _ =>
      have := decEqItems xs ys
      decidable_of_iff (xs = ys) (by simp)
    | object xs, object ys, _ =>
      have := decEqFields xs ys
      decidable_of_iff (xs = ys) (by simp)
  else .isFalse fun hab => h (congrArg Json.ctorIdx hab)

def decEqItems (xs ys : List Json) : Decidable (xs = ys) :=
  match xs, ys with
  | [], [] => .isTrue rfl
  | [], _ :: _ | _ :: _, [] => .isFalse nofun
  | x :: xs, y :: ys =>
    have := decEq x y
    have := decEqItems xs ys
    decidable_of_iff (x = y ∧ xs = ys) (by simp)

def decEqFields (xs ys : List (String × Json)) : Decidable (xs = ys) :=
  match xs, ys with
  | [], [] => .isTrue rfl
  | [], _ :: _ | _ :: _, [] => .isFalse nofun
  | (key, x) :: xs, (key', y) :: ys =>
    have := decEq x y
    have := decEqFields xs ys
    decidable_of_iff (key = key' ∧ x = y ∧ xs = ys) (by simp [and_assoc])

end

instance : DecidableEq Json := decEq

def ofPoints (points : List Nat) : Json :=
  match Text.ofPoints? points with
  | some s => text s
  | none => unpaired points

/-- The key of code points, with U+FFFD for an unpaired surrogate. -/
def keyOfPoints (points : List Nat) : String :=
  String.ofList (points.map fun n => Char.ofNat (if Text.isScalar n then n else 0xFFFD))

def field? (key : String) : Json → Option Json
  | object fields => Keyed.get? key fields
  | _ => none

end Json

end AdSearch
