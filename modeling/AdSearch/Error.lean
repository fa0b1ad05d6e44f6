import AdSearch.Number.Literal
import AdSearch.Text.Quoted

/-!
# Failures

A search fails because its query is unusable, because one of its inputs cannot be honoured, or
because a value on the way does not support what is asked of it.
-/

namespace AdSearch

/-- Why a value or the calendar does not support an operation. -/
inductive Failure where
  | unknownOperator (spelled : String)
  | unknownLevel (name : String)
  | integerTooLongToWrite
  | integerTooLongToRead (digits : Nat)
  | malformedInteger (text : String)
  | nanToInteger
  | infinityToInteger
  | integerBeyondRange
  | quotientBeyondRange
  | dateBeyondRange
  | yearBeyondRange (year : Int)
  | spanBeyondRange (days : Int)
  | spanBeyondWord
  | missingKey (key : String)
  | missingFirst
  | wrongKind
  | noMember
deriving DecidableEq

/-- The widest window, in days, that can be asked for by its length. -/
def spanLimit : Int := 999999999

/-- The text of a failure; a mismatch of kinds has none. -/
def Failure.message : Failure → String
  | unknownOperator spelled => Text.quote spelled ++ " is not a valid Operator"
  | unknownLevel name => "Unknown level: " ++ Text.quote name
  | integerTooLongToWrite =>
    "Exceeds the limit (4300 digits) for integer string conversion; " ++
      "use sys.set_int_max_str_digits() to increase the limit"
  | integerTooLongToRead digits =>
    "Exceeds the limit (4300 digits) for integer string conversion: value has " ++
      toString digits ++ " digits; use sys.set_int_max_str_digits() to increase the limit"
  | malformedInteger text =>
    "invalid literal for int() with base 10: " ++
      String.ofList ((Text.quoteChars text.toList).take 200)
  | nanToInteger => "cannot convert float NaN to integer"
  | infinityToInteger => "cannot convert float infinity to integer"
  | integerBeyondRange => "int too large to convert to float"
  | quotientBeyondRange => "integer division result too large for a float"
  | dateBeyondRange => "date value out of range"
  | yearBeyondRange year => "year " ++ toString year ++ " is out of range"
  | spanBeyondRange days =>
    "days=" ++ toString days ++ "; must have magnitude <= " ++ toString spanLimit
  | spanBeyondWord => "Python int too large to convert to C int"
  | missingKey key => Text.quote key
  | missingFirst => "0"
  | wrongKind => ""
  | noMember => ""

/-- What makes a query unusable. -/
inductive QueryFault where
  | missingFrom
  | missingSelect
  | noFields
deriving DecidableEq

/-- The text of a fault of a query. -/
def QueryFault.message : QueryFault → String
  | missingFrom => "Invalid GAQL: Missing FROM clause"
  | missingSelect => "Invalid GAQL: Missing SELECT clause"
  | noFields => "Invalid GAQL: SELECT clause lists no fields"

/-- The code of a fault of a query. -/
def QueryFault.reason : QueryFault → String
  | missingFrom => "MISSING_FROM"
  | missingSelect => "MISSING_SELECT"
  | noFields => "MISSING_SELECT"

/-- What cannot be honoured in a request whose query is usable. -/
inductive RequestFault where
  | unsupportedResource (name : String) (allowed : List String)
  | invalidDate (literal : Option String)
  | invalidPageToken (token : String)
  | nonPositivePageSize (size : Int)
  | pageSizeOutsideRange (size : Int) (greatest : Int)
deriving DecidableEq

/-- The text of a fault of a request. -/
def RequestFault.message : RequestFault → String
  | unsupportedResource name allowed =>
    "Unsupported resource '" ++ name ++ "'. Allowed: " ++ String.intercalate ", " allowed
  | invalidDate literal =>
    "Invalid date literal in BETWEEN clause: " ++ Text.quoteOption literal
  | invalidPageToken token => "Invalid page token: " ++ Text.quote token
  | nonPositivePageSize size =>
    "Page size must be a positive integer, got " ++ toString size ++ "."
  | pageSizeOutsideRange size greatest =>
    "Page size " ++ toString size ++ " is outside the allowed range 1.." ++
      toString greatest ++ "."

/-- The code of a fault of a request. -/
def RequestFault.reason : RequestFault → String
  | unsupportedResource .. => "UNSUPPORTED_RESOURCE"
  | invalidDate _ => "INVALID_DATE"
  | invalidPageToken _ => "INVALID_PAGE_TOKEN"
  | nonPositivePageSize _ => "INVALID_PAGE_SIZE"
  | pageSizeOutsideRange .. => "INVALID_PAGE_SIZE"

/-- The integers that the text of a fault shows. -/
def RequestFault.integers : RequestFault → List Int
  | nonPositivePageSize size => [size]
  | pageSizeOutsideRange size greatest => [size, greatest]
  | _ => []

inductive SearchError where
  | query (fault : QueryFault)
  | request (fault : RequestFault)
  | failure (failure : Failure)
deriving DecidableEq

/-- The error of a fault, or that its text cannot be written. -/
def SearchError.ofFault (fault : RequestFault) : SearchError :=
  if fault.integers.all Number.isWritable then request fault else failure .integerTooLongToWrite

end AdSearch
