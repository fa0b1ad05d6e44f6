import AdSearch.Text.Blank
import AdSearch.Text.Case
import AdSearch.Text.Word

/-!
# Reading text from the left

A reader takes a prefix of the text and answers with the rest, or fails.  `find?` looks for the
first place at which a reader succeeds.
-/

namespace AdSearch.Text

/-- One or more blanks, as many as there are. -/
def blanks? : List Char → Option (List Char)
  | [] => none
  | c :: cs => if isBlank c then some (trimLeft cs) else none

/-- The letters of a keyword in any case: how they are spelled, and the rest. -/
def letters? : List Char → List Char → Option (List Char × List Char)
  | [], cs => some ([], cs)
  | _ :: _, [] => none
  | k :: ks, c :: cs =>
    if sameLetter k c then (letters? ks cs).map fun (spelled, rest) => (c :: spelled, rest)
    else none

/-- A non-empty run of word characters, as long as it goes. -/
def word? (cs : List Char) : Option (List Char × List Char) :=
  match cs.takeWhile isWord with
  | [] => none
  | w => some (w, cs.dropWhile isWord)

/-- The text before the first `mark`, and the text after it. -/
def upTo? (mark : Char) : List Char → Option (List Char × List Char)
  | [] => none
  | c :: cs =>
    if c == mark then some ([], cs)
    else (upTo? mark cs).map fun (before, rest) => (c :: before, rest)

def char? (mark : Char) : List Char → Option (List Char)
  | [] => none
  | c :: cs => if c == mark then some cs else none

/-- The first place where `here?` succeeds: the text before it, and the answer there.  `here?`
is told whether the place comes right after a word character. -/
def find? {α : Type} (here? : Bool → List Char → Option α) :
    Bool → List Char → Option (List Char × α)
  | afterWord, [] => (here? afterWord []).map fun a => ([], a)
  | afterWord, c :: cs =>
    match here? afterWord (c :: cs) with
    | some a => some ([], a)
    | none => (find? here? (isWord c) cs).map fun (before, a) => (c :: before, a)

/-- The pieces of a text between the occurrences of `mark`. -/
def splitOn (mark : Char) : List Char → List (List Char)
  | [] => [[]]
  | c :: cs =>
    if c == mark then [] :: splitOn mark cs
    else match splitOn mark cs with
      | piece :: pieces => (c :: piece) :: pieces
      | [] => [[c]]

def dropPrefix? : List Char → List Char → Option (List Char)
  | [], cs => some cs
  | _ :: _, [] => none
  | p :: ps, c :: cs => if p == c then dropPrefix? ps cs else none

theorem splitOn_ne_nil (mark : Char) (cs : List Char) : splitOn mark cs ≠ [] := by
  cases cs with
  | nil => simp [splitOn]
  | cons c cs =>
    unfold splitOn
    split
    · simp
    · split <;> simp

end AdSearch.Text
