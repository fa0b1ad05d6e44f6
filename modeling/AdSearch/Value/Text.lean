import AdSearch.Error
import AdSearch.Number.Literal
import AdSearch.Number.Shortest
import AdSearch.Value.Basic

/-!
# The text of values

A value has two texts.  Its *label* is what conditions compare with: a list is its members with
commas between them, and a number without a fraction is written as an integer.  Its *display* shows
it on one line, with texts inside lists and mappings in quotation marks.
-/

namespace AdSearch.Value

/-- An integer in base ten, unless it has too many digits. -/
def integerText (i : Int) : Except Failure String :=
  if Number.isWritable i then .ok (toString i) else .error .integerTooLongToWrite

/-- A date inside a list or a mapping. -/
def quotedDate (d : Date) : String :=
  "datetime.date(" ++ toString d.year ++ ", " ++ toString d.month ++ ", " ++ toString d.day ++ ")"

mutual

/-- The text of a value inside a list or a mapping. -/
def quoted : Value → Except Failure String
  | null => .ok "None"
  | bool b => .ok (if b then "True" else "False")
  | int i => integerText i
  | float x => .ok x.text
  | date d => .ok (quotedDate d)
  | text s => .ok (Text.quote s)
  | list items => do
    let texts ← quotedItems items
    .ok ("[" ++ String.intercalate ", " texts ++ "]")
  | record fields => do
    let texts ← quotedFields fields
    .ok ("\x7b" ++ String.intercalate ", " texts ++ "\x7d")

/-- The texts of the members of a list. -/
def quotedItems : List Value → Except Failure (List String)
  | [] => .ok []
  | item :: rest => do
    let head ← quoted item
    let tail ← quotedItems rest
    .ok (head :: tail)

/-- The texts of the fields of a mapping. -/
def quotedFields : List (String × Value) → Except Failure (List String)
  | [] => .ok []
  | (key, item) :: rest => do
    let head ← quoted item
    let tail ← quotedFields rest
    .ok ((Text.quote key ++ ": " ++ head) :: tail)

end

/-- The text that shows a value. -/
def display : Value → Except Failure String
  | text s => .ok s
  | date d => .ok d.iso
  | v => quoted v

mutual

/-- The text that conditions compare with. -/
def label : Value → Except Failure String
  | list items => do
    let labels ← itemLabels items
    .ok (String.intercalate "," labels)
  | bool b => .ok (if b then "true" else "false")
  | null => .ok "null"
  | float x =>
    match x.toInt? with
    | some i => integerText i
    | none => .ok x.text
  | v => display v

/-- The labels of the members of a list. -/
def itemLabels : List Value → Except Failure (List String)
  | [] => .ok []
  | item :: rest => do
    let head ← label item
    let tail ← itemLabels rest
    .ok (head :: tail)

end

end AdSearch.Value
