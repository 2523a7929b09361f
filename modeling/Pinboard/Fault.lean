import Pinboard.Number.Whole
import Pinboard.Record.Report

/-!
# Faults

Everything that can go wrong while directives run, pins are opened and records are kept, as causes.
The wording is in one function.
-/
namespace Pinboard

/-- The collaborators that a host may leave out. -/
inductive Collaborator where
  | platform | notifier | completion
  deriving DecidableEq, Repr

/-- What a script may not hold. -/
inductive Forbidden where
  | importing
  | globalScope
  | nonlocalScope
  | catchAll
  | name (name : String)
  | attribute (name : String)
  | argument (name : String)
  | definition (name : String)
  deriving DecidableEq, Repr

/-- How the run of a script fails. -/
inductive ScriptFault where
  | unparsable
  | holdsNul
  | forbidden (line : Nat) (what : Forbidden)
  | timeout
  /-- The script raised an error of a named type. -/
  | raised (type message : String)
  /-- The script holds a whole number with too many digits to be written out. -/
  | numberTooLong
  /-- The worker ended without an answer. -/
  | workerLost
  /-- The worker's answer is longer than a line may be. -/
  | answerTooLong
  deriving DecidableEq, Repr

inductive Fault where
  | missing (who : Collaborator)
  /-- A collaborator refused a call. -/
  | refused (call : String)
  /-- A handler gave up. -/
  | gaveUp (message : String)
  | noDuration (text : String)
  | unknownUnit
  | outOfRange
  | notReal (text : String)
  | notWhole (text : String)
  | tooManyDigits (count : Nat)
  | noItem
  | noKey (key : String)
  | wrongType
  | incomparable
  | divisionByZero
  /-- A number was added to a value of another kind. -/
  | noSum (kind : String)
  | completionFailed (attempts : Nat)
  | launchTooDeep (pin : String) (limit : Nat)
  | fileMissing
  | noPin
  | noResolver
  | nesting
  /-- A record of a kind was refused. -/
  | invalid (record : String) (faults : List Record.FieldFault)
  | script (cause : ScriptFault)
  | notStarted
  | unreachable (address : String)
  | connectionRefused
  | database (message : String)
  /-- A store operation failed; `attempt` says what was tried. -/
  | storage (attempt cause : String)
  | noVariable (name : String)
  | noCredentials
  | unknownProvider (name : String) (known : List String)
  | unknownKind (name : String)
  | undocumented (name : String)
  deriving DecidableEq, Repr

def Collaborator.description : Collaborator → String
  | .platform => "platform automation"
  | .notifier => "notification surface"
  | .completion => "completion provider"

def Forbidden.description : Forbidden → String
  | .importing => "import"
  | .globalScope => "global"
  | .nonlocalScope => "nonlocal"
  | .catchAll => "bare except"
  | .name n => "name '" ++ n ++ "'"
  | .attribute n => "attribute '" ++ n ++ "'"
  | .argument n => "argument '" ++ n ++ "'"
  | .definition n => "definition '" ++ n ++ "'"

def ScriptFault.message : ScriptFault → String
  | .unparsable => "Syntax error in script"
  | .holdsNul => "source code string cannot contain null bytes"
  | .forbidden line what =>
    "Line " ++ Number.natText line ++ ": " ++ what.description ++ " is not allowed"
  | .timeout => "Script exceeded its time limit"
  | .raised type message => if message.isEmpty then type else type ++ ": " ++ message
  | .numberTooLong => Number.unwritableMessage
  | .workerLost => "Script worker exited unexpectedly"
  | .answerTooLong => "Separator is not found, and chunk exceed the limit"

/-- What a text is that is no whole number; of a long one only the beginning is shown. -/
def notWholeMessage (base : Nat) (text : String) : String :=
  "invalid literal for int() with base " ++ Number.natText base ++ ": "
    ++ Text.take 200 (Text.quoted text)

def tooManyDigitsMessage (count : Nat) : String :=
  "Exceeds the limit (4300 digits) for integer string conversion: value has "
    ++ Number.natText count ++ " digits; use sys.set_int_max_str_digits() to increase the limit"

/-- A whole number has too many digits to be written, in a listing as in a script. -/
def Fault.numberTooLong : Fault := .script .numberTooLong

/-- The fault of a text that is read as a whole number. -/
def Fault.ofNumeral (text : String) : Number.NumeralFault → Fault
  | .malformed => .notWhole text
  | .tooLong count => .tooManyDigits count

/-- The text that reports a fault. -/
def Fault.message : Fault → String
  | .missing who => "No " ++ who.description ++ " configured"
  | .refused call => call ++ " failed"
  | .gaveUp message => message
  | .noDuration text => "No duration in " ++ Text.quoted text
  | .unknownUnit => Text.quoted "ſ"
  | .outOfRange => "date value out of range"
  | .notReal text => "could not convert string to float: " ++ Text.quoted text
  | .notWhole text => notWholeMessage 10 text
  | .tooManyDigits count => tooManyDigitsMessage count
  | .noItem => "list index out of range"
  | .noKey key => Text.quoted key
  | .wrongType => "wrong type"
  | .incomparable => "can't compare offset-naive and offset-aware datetimes"
  | .divisionByZero => "division by zero"
  | .noSum kind =>
    if ["str", "list"].contains kind then
      "can only concatenate " ++ kind ++ " (not \"int\") to " ++ kind
    else "unsupported operand type(s) for +: '" ++ kind ++ "' and 'int'"
  | .completionFailed attempts =>
    "AI completion failed after " ++ Number.natText attempts ++ " attempts"
  | .launchTooDeep pin limit =>
    "Opening '" ++ pin ++ "' exceeds the launch depth limit of " ++ Number.natText limit
  | .fileMissing => "File does not exist."
  | .noPin => ""
  | .noResolver => "Script directive requires an active resolver"
  | .nesting => "maximum recursion depth exceeded"
  | .invalid record faults => Record.report record faults
  | .script cause => cause.message
  | .notStarted => "Storage not initialized. Call startup() first."
  | .unreachable address => "Unable to connect to MongoDB at " ++ address
  | .connectionRefused => "refused"
  | .database message => message
  | .storage attempt cause => "Failed to " ++ attempt ++ ": " ++ cause
  | .noVariable name => "Required environment variable '" ++ name ++ "' is not set"
  | .noCredentials => "Either ANTHROPIC_API_KEY or ANTHROPIC_BASE_URL must be set"
  | .unknownProvider name known =>
    "Invalid provider '" ++ name ++ "'. Must be one of: " ++ ", ".intercalate known
  | .unknownKind name => Text.quoted name ++ " is not a valid DirectiveKind"
  | .undocumented name =>
    "Directive '" ++ name
      ++ "' must have a docstring. The docstring is used as the directive description."

end Pinboard
