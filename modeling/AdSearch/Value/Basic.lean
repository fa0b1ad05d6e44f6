import AdSearch.Calendar.Date
import AdSearch.Keyed
import AdSearch.Number.Binary64
import AdSearch.Text.Scan

/-!
# Values

Seeds and records are made of scalars, lists and mappings with text keys.  A dotted path leads from
a mapping through its fields, one segment at a time.
-/

namespace AdSearch

/-- A value of a seed or a record. -/
inductive Value where
  | null
  | bool (b : Bool)
  | int (i : Int)
  | float (x : Binary64)
  | date (d : Date)
  | text (s : String)
  | list (items : List Value)
  | record (fields : List (String × Value))

namespace Value

instance : Inhabited Value := ⟨null⟩

def segments (path : String) : List String :=
  (Text.splitOn '.' path.toList).map String.ofList

/-- The value at the end of a path, if every segment leads on. -/
def get? : List String → Value → Option Value
  | [], v => some v
  | key :: path, record fields => (Keyed.get? key fields).bind (get? path)
  | _ :: _, _ => none

/-- The value at the end of a dotted path. -/
def at? (v : Value) (path : String) : Option Value := get? (segments path) v

/-- Whether a value is neither absent, false, zero nor empty. -/
def isPresent : Value → Bool
  | null => false
  | bool b => b
  | int i => i != 0
  | float x => !x.isZero
  | date _ => true
  | text s => s != ""
  | list items => !items.isEmpty
  | record fields => !fields.isEmpty

@[simp] theorem get?_nil (v : Value) : get? [] v = some v := by cases v <;> rfl

@[simp] theorem get?_cons_record (key : String) (path : List String)
    (fields : List (String × Value)) :
    get? (key :: path) (record fields) = (Keyed.get? key fields).bind (get? path) := rfl

theorem get?_append (p q : List String) (v : Value) :
    get? (p ++ q) v = (get? p v).bind (get? q) := by
  induction p generalizing v with
  | nil => simp
  | cons key p ih =>
    cases v <;> simp [get?]
    cases Keyed.get? key _ <;> simp [ih]

end Value

end AdSearch
