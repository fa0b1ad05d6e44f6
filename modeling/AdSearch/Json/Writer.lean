import AdSearch.Json.Basic
import AdSearch.Number.Shortest
import AdSearch.Text.Quoted

/-!
# Writing JSON

Text is written in ASCII: other characters become escapes of their UTF-16 units.  A blank follows
each comma and each colon.
-/

namespace AdSearch.Json

open AdSearch.Text

def unitEscape (n : Nat) : List Char := '\\' :: 'u' :: hexDigits 4 n

def writePoint (n : Nat) : List Char :=
  if n = 0x22 then ['\\', '"']
  else if n = 0x5C then ['\\', '\\']
  else if n = 0x0A then ['\\', 'n']
  else if n = 0x0D then ['\\', 'r']
  else if n = 0x09 then ['\\', 't']
  else if n = 0x08 then ['\\', 'b']
  else if n = 0x0C then ['\\', 'f']
  else if 0x20 ≤ n ∧ n ≤ 0x7E then [Char.ofNat n]
  else if n < 0x10000 then unitEscape n
  else
    unitEscape (0xD800 + (n - 0x10000) / 1024) ++ unitEscape (0xDC00 + (n - 0x10000) % 1024)

def writePoints (ps : List Nat) : String :=
  String.ofList ('"' :: ps.flatMap writePoint ++ ['"'])

def writeText (s : String) : String := writePoints (s.toList.map Char.toNat)

/-- A number that is not an integer. -/
def writeNumber : Binary64 → String
  | .nan => "NaN"
  | .infinite negative => if negative then "-Infinity" else "Infinity"
  | x => x.text

mutual

/-- The text of a value. -/
def write : Json → String
  | null => "null"
  | bool b => if b then "true" else "false"
  | integer i => toString i
  | number x => writeNumber x
  | text s => writeText s
  | unpaired ps => writePoints ps
  | array items => "[" ++ String.intercalate ", " (writeItems items) ++ "]"
  | object fields => "\x7b" ++ String.intercalate ", " (writeFields fields) ++ "\x7d"

def writeItems : List Json → List String
  | [] => []
  | item :: rest => write item :: writeItems rest

def writeFields : List (String × Json) → List String
  | [] => []
  | (key, item) :: rest => (writeText key ++ ": " ++ write item) :: writeFields rest

end

end AdSearch.Json
