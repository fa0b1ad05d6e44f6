import AdSearch.Text.Range
import AdSearch.Text.WordTable

/-!
# Word characters
-/

namespace AdSearch.Text

/-- Letters, numerals and the low line. -/
def isWord (c : Char) : Bool := inRanges wordRanges c.toNat

def startsWord : List Char → Bool
  | [] => false
  | c :: _ => isWord c

end AdSearch.Text
