/-!
# Log lines
-/

namespace AdSearch.Log

inductive Level where
  | debug
  | info
  | warning
  | error
  | critical
deriving DecidableEq

/-- The number of a level, by which levels are compared. -/
def Level.rank : Level → Int
  | debug => 10
  | info => 20
  | warning => 30
  | error => 40
  | critical => 50

def Level.name : Level → String
  | debug => "DEBUG"
  | info => "INFO"
  | warning => "WARNING"
  | error => "ERROR"
  | critical => "CRITICAL"

/-- A line that a named logger writes. -/
structure Line where
  level : Level
  logger : String
  message : String
deriving DecidableEq

/-- A text with blanks after it, at least `width` long. -/
def padRight (width : Nat) (s : String) : String :=
  String.ofList (s.toList ++ List.replicate (width - s.length) ' ')

/-- The text of a line, without the time. -/
def Line.text (line : Line) : String :=
  padRight 8 line.level.name ++ " | " ++ line.logger ++ " | " ++ line.message

end AdSearch.Log
