import Pinboard.Record.Checked
import Pinboard.Text.Basic

/-!
# Reports on refused records

The wording for the faults of a record: how many there are, and for each its path, what is wanted
there, and what was found.
-/
namespace Pinboard.Record

open Number

def dateFaultMessage : Time.DateFault → String
  | .tooShort => "input is too short"
  | .badYear => "invalid character in year"
  | .badMonth => "invalid character in month"
  | .badDay => "invalid character in day"
  | .badSeparator => "invalid date separator, expected `-`"
  | .monthOutOfRange => "month value is outside expected range of 1-12"
  | .dayOutOfRange => "day value is outside expected range"
  | .trailing => "unexpected extra characters at the end of the input"
  | .tooEarly => "dates before 0000 are not supported as unix timestamps"
  | .tooLate => "dates after 9999 are not supported as unix timestamps"
  | .yearZero => "year 0 is out of range"
  | .notNumber => "NaN values not permitted"

/-- Choices in quotes, the last two joined by a word. -/
def choicesText : List String → String
  | [] => ""
  | [s] => Text.quoted s
  | [s, t] => Text.quoted s ++ " or " ++ Text.quoted t
  | s :: rest => Text.quoted s ++ ", " ++ choicesText rest

/-- What is wanted in a place where something else was found. -/
def FieldCause.message : FieldCause → String
  | .missing => "Field required"
  | .notText => "Input should be a valid string"
  | .notWhole => "Input should be a valid integer"
  | .wholeUnreadable =>
    "Input should be a valid integer, unable to parse string as an integer"
  | .wholeTooLarge => "Unable to parse input string as an integer, exceeded maximum size"
  | .notWholeReal => "Input should be a valid integer, got a number with a fractional part"
  | .notFinite => "Input should be a finite number"
  | .notReal => "Input should be a valid number"
  | .realUnreadable => "Input should be a valid number, unable to parse string as a number"
  | .notTruth => "Input should be a valid boolean"
  | .truthUnreadable => "Input should be a valid boolean, unable to interpret input"
  | .notList => "Input should be a valid list"
  | .notMapping => "Input should be a valid dictionary"
  | .notRecord => "Input should be a valid dictionary or instance"
  | .notMoment => "Input should be a valid datetime"
  | .momentUnreadable why =>
    "Input should be a valid datetime or date, " ++ dateFaultMessage why
  | .momentOutOfRange why => "Input should be a valid datetime, " ++ dateFaultMessage why
  | .noChoice choices => "Input should be " ++ choicesText choices
  | .belowMinimum bound => "Input should be greater than or equal to " ++ natText bound
  | .notAbove bound => "Input should be greater than " ++ natText bound
  | .aboveMaximum bound => "Input should be less than or equal to " ++ natText bound
  | .badName => "Value error, invalid directive name"

def Step.text : Step → String
  | .field name => name
  | .item index => natText index

/-- The longest beginning of at most so many bytes. -/
def takeBytes (limit : Nat) : List Char → List Char
  | [] => []
  | c :: cs => if c.utf8Size ≤ limit then c :: takeBytes (limit - c.utf8Size) cs else []

/-- A text of more than fifty bytes is shown by its beginning and its end. -/
def shortened (s : String) : String :=
  if s.utf8ByteSize ≤ 50 then s
  else
    let cs := s.toList
    String.ofList (takeBytes 25 cs) ++ "..."
      ++ String.ofList (takeBytes 24 cs.reverse).reverse

/-- Where a cause is explained. -/
def FieldCause.page (c : FieldCause) : String :=
  "https" ++ "://" ++ Text.join "." ["errors", "pydantic", "dev"] ++ "/"
    ++ Text.join "/" ["2.14", "v", c.code]

def FieldFault.report (f : FieldFault) : String :=
  Text.join "." (f.path.map Step.text) ++ "\n  " ++ f.cause.message ++ " [type=" ++ f.cause.code
    ++ ", input_value=" ++ shortened f.found.text ++ ", input_type=" ++ f.found.kind
    ++ "]\n    For further information visit " ++ f.cause.page

/-- The report on a record of a kind. -/
def report (record : String) (faults : List FieldFault) : String :=
  natText faults.length ++ (if faults.length = 1 then " validation error for " else
    " validation errors for ") ++ record ++ "\n" ++ Text.join "\n" (faults.map FieldFault.report)

end Pinboard.Record
