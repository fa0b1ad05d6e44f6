/-!
# Keywords

The words of the query language.  They are recognised in any letter case.
-/

namespace AdSearch.Keyword

def selectWord : List Char := ['S', 'E', 'L', 'E', 'C', 'T']

def fromWord : List Char := ['F', 'R', 'O', 'M']

def whereWord : List Char := ['W', 'H', 'E', 'R', 'E']

def duringWord : List Char := ['D', 'U', 'R', 'I', 'N', 'G']

def betweenWord : List Char := ['B', 'E', 'T', 'W', 'E', 'E', 'N']

/-- Joins two conditions, and the dates of a range. -/
def andWord : List Char := ['A', 'N', 'D']

def orWord : List Char := ['O', 'R']

def notWord : List Char := ['N', 'O', 'T']

def inWord : List Char := ['I', 'N']

def likeWord : List Char := ['L', 'I', 'K', 'E']

def orderWord : List Char := ['O', 'R', 'D', 'E', 'R']

def byWord : List Char := ['B', 'Y']

def limitWord : List Char := ['L', 'I', 'M', 'I', 'T']

def parametersWord : List Char := ['P', 'A', 'R', 'A', 'M', 'E', 'T', 'E', 'R', 'S']

/-- The last segment of a field that holds a date. -/
def dateWord : List Char := ['d', 'a', 't', 'e']

end AdSearch.Keyword
