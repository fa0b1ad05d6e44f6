/-!
# Blank characters

Blanks separate the words of a text.  A text is *collapsed* when every run of blanks in it is a
single space that stands between two words.
-/

namespace AdSearch.Text

/-- The white space of Unicode, together with the four information separators. -/
def isBlank (c : Char) : Bool :=
  let n := c.toNat
  (9 ≤ n && n ≤ 13) || (28 ≤ n && n ≤ 32) || n == 0x85 || n == 0xA0 || n == 0x1680 ||
    (0x2000 ≤ n && n ≤ 0x200A) || n == 0x2028 || n == 0x2029 || n == 0x202F || n == 0x205F ||
    n == 0x3000

/-- Drops the blanks before the first other character. -/
def trimLeft (cs : List Char) : List Char := cs.dropWhile isBlank

/-- Drops the blanks after the last other character. -/
def trimRight (cs : List Char) : List Char := (cs.reverse.dropWhile isBlank).reverse

/-- Drops the blanks at both ends. -/
def trim (cs : List Char) : List Char := trimRight (trimLeft cs)

/-- The maximal runs of characters that are not blank, in order. -/
def words : List Char → List (List Char)
  | [] => []
  | c :: cs =>
    if isBlank c then words cs
    else match cs.head?, words cs with
      | some d, w :: ws => if isBlank d then [c] :: w :: ws else (c :: w) :: ws
      | _, ws => [c] :: ws

/-- The text with one space for every run of blanks.  The flag tells whether the text before ends
in a blank. -/
def squeeze : Bool → List Char → List Char
  | _, [] => []
  | afterBlank, c :: cs =>
    if isBlank c then if afterBlank then squeeze true cs else ' ' :: squeeze true cs
    else c :: squeeze false cs

/-- The text with one space for every run of blanks between its words, and no other blanks. -/
def collapse (cs : List Char) : List Char := trim (squeeze false cs)

end AdSearch.Text
