import AdSearch.Error
import AdSearch.Keyed
import AdSearch.Log.Line
import AdSearch.Text.Case

/-!
# Loggers

Loggers are kept by name and form a hierarchy by the dots of their names, with a root above all of
them.  A logger that is asked for gets a handler if it has none; a line goes to the handlers of the
logger and of the loggers above it.

A new logger takes in those below it that hang from a logger further up.  It tells them by the title
of what they hang from, which must not start with its own name: so a logger whose name starts the
title of the root leaves to the root what is there already.
-/

namespace AdSearch.Log

/-- The rank of the root as long as nobody asks for it. -/
def rootRank : Int := 30

inductive Threshold where
  | rank (n : Int)
  | notALevel (failure : Failure)
deriving DecidableEq

/-- The names that mean something as a level. -/
def thresholds : List (String × Threshold) := [
  ("DEBUG", .rank 10), ("INFO", .rank 20), ("WARNING", .rank 30), ("WARN", .rank 30),
  ("ERROR", .rank 40), ("CRITICAL", .rank 50), ("FATAL", .rank 50), ("NOTSET", .rank 0),
  ("BASIC_FORMAT", .notALevel (.unknownLevel "%(levelname)s:%(name)s:%(message)s")),
  ("_STYLES", .notALevel .wrongKind)]

/-- The threshold that a name means, in any letter case; an unknown name means `INFO`. -/
def Threshold.ofName (name : String) : Threshold :=
  let upper := String.ofList (Text.upper name.toList)
  ((thresholds.find? fun entry => entry.1 == upper).map (·.2)).getD (.rank 20)

theorem Threshold.ofName_of_name (level : Level) {name : String}
    (h : String.ofList (Text.upper name.toList) = level.name) :
    ofName name = .rank level.rank := by
  rw [ofName, h]
  cases level <;> rfl

/-- A logger: its rank, where zero leaves the choice to the loggers above, and how many handlers it
has of its own. -/
structure Logger where
  rank : Int
  handlers : Nat
deriving DecidableEq

/-- The logger with a handler, a new one if it has none. -/
def Logger.attached (logger : Logger) : Logger :=
  if logger.handlers = 0 then { logger with handlers := logger.handlers + 1 } else logger

/-- The loggers by their keys, in the order in which they were first asked for. -/
abbrev Registry := List (String × Logger)

namespace Registry

/-- The name that the root shows, and by which it can be asked for. -/
def rootTitle : String := "root"

/-- What a logger of a name is kept by; the root is kept by the empty name. -/
def key (name : String) : String := if name = rootTitle then "" else name

/-- The name that a logger shows. -/
def title (name : String) : String := if name = "" then rootTitle else name

def find? (r : Registry) (name : String) : Option Logger := Keyed.get? (key name) r

/-- A logger that nobody has asked for. -/
def unasked (name : String) : Logger := ⟨if key name = "" then rootRank else 0, 0⟩

def logger (r : Registry) (name : String) : Logger := (r.find? name).getD (unasked name)

/-- How many handlers a logger has of its own. -/
def handlers (r : Registry) (name : String) : Nat := (r.logger name).handlers

/-- Whether a key was asked for before another one. -/
def precedes (r : Registry) (k k' : String) : Bool :=
  (Keyed.keys r).idxOf k < (Keyed.keys r).idxOf k'

/-- Whether a logger stays with the root although the logger of `front` is above it. -/
def staysWithRoot (r : Registry) (child front : String) : Bool :=
  front.toList.isPrefixOf rootTitle.toList && r.precedes child front

/-- The loggers above that of `child`, the nearest first, where the rest of its name is given from
the end.  A name is cut before its dots; of dots in a row only every second one counts, from the
last. -/
def above (r : Registry) (child : String) : List Char → List Logger
  | [] => (Keyed.get? "" r).toList
  | '.' :: c :: cs =>
    let front := String.ofList (c :: cs).reverse
    match Keyed.get? front r with
    | some logger =>
      if r.staysWithRoot child front then (Keyed.get? "" r).toList
      else logger :: above r front (c :: cs)
    | none => above r child cs
  | _ :: cs => above r child cs

/-- The loggers that handle the lines of a name, the nearest first. -/
def lineage (r : Registry) (name : String) : List Logger :=
  (r.find? name).toList ++ if key name = "" then [] else r.above name name.toList.reverse

/-- The rank below which a logger is silent. -/
def threshold (r : Registry) (name : String) : Int :=
  (((r.lineage name).find? fun logger => logger.rank != 0).map (·.rank)).getD (r.logger "").rank

/-- The registry with a logger that has a handler, at a rank. -/
def set (r : Registry) (name : String) (rank : Int) : Registry :=
  Keyed.put (key name) { (r.logger name).attached with rank := rank } r

/-- Asks for a logger at the level with a name.  The handler stays even if the level is none. -/
def request (r : Registry) (name level : String) : Registry × Except Failure Int :=
  match Threshold.ofName level with
  | .rank rank => (r.set name rank, .ok rank)
  | .notALevel failure => (r.set name (r.logger name).rank, .error failure)

/-- The lines that a message of a logger gives, one for each handler that it reaches. -/
def emit (r : Registry) (line : Line) : List Line :=
  if r.threshold line.logger ≤ line.level.rank then
    (r.lineage line.logger).flatMap fun logger =>
      List.replicate logger.handlers { line with logger := title line.logger }
  else []

end Registry

end AdSearch.Log
