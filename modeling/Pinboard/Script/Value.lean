import Pinboard.Fields
import Pinboard.Json.Basic

/-!
# Values of scripts

What expressions of a script stand for, and the errors that a script raises. A call to a directive
is a value of its own until it is awaited. Some values are told apart from others that look the
same: calls to directives, errors, and results of arithmetic that are no number. They bear numbers
that are given out one after the other.
-/
namespace Pinboard.Script

open Number

inductive ErrorType where
  | exception | arithmetic | lookup | badValue | badType | runtime | badIndex | badKey
  | zeroDivision | unknownName | unknownAttribute | overflow | badJson | endOfInput
  | notImplemented | malformed | recursion | memory | importing
  deriving DecidableEq, Repr

namespace ErrorType

def name : ErrorType → String
  | exception => "Exception"
  | arithmetic => "ArithmeticError"
  | lookup => "LookupError"
  | badValue => "ValueError"
  | badType => "TypeError"
  | runtime => "RuntimeError"
  | badIndex => "IndexError"
  | badKey => "KeyError"
  | zeroDivision => "ZeroDivisionError"
  | unknownName => "NameError"
  | unknownAttribute => "AttributeError"
  | overflow => "OverflowError"
  | badJson => "JSONDecodeError"
  | endOfInput => "EOFError"
  | notImplemented => "NotImplementedError"
  | malformed => "SyntaxError"
  | recursion => "RecursionError"
  | memory => "MemoryError"
  | importing => "ImportError"

/-- The types that a type belongs to, other than itself and the type of all errors. -/
def broader : ErrorType → List ErrorType
  | badIndex | badKey => [lookup]
  | zeroDivision | overflow => [arithmetic]
  | badJson => [badValue]
  | notImplemented | recursion => [runtime]
  | _ => []

/-- Whether every error of type `t` is one of type `u`. -/
def isKindOf (t u : ErrorType) : Bool := u == exception || t == u || t.broader.contains u

/-- The types that scripts can name. -/
def named : List ErrorType :=
  [arithmetic, exception, badIndex, badKey, lookup, runtime, badType, badValue, zeroDivision]

def ofName? (s : String) : Option ErrorType := named.find? fun t => t.name == s

end ErrorType

/-- The methods of texts. -/
inductive Method where
  | upper | split | join
  deriving DecidableEq, Repr

def Method.name : Method → String
  | upper => "upper"
  | split => "split"
  | join => "join"

def Method.ofName? (s : String) : Option Method :=
  [Method.upper, .split, .join].find? fun m => m.name == s

/-- The functions that scripts are given. -/
inductive Function where
  | length | text | whole | sum | sorted | set | readJson | writeJson
  /-- A method of texts that takes the text as its first argument. -/
  | method (m : Method)
  /-- A function under a name that no script calls. -/
  | other (name : String)
  deriving DecidableEq, Repr

inductive Value where
  | none
  | truth (value : Bool)
  | whole (value : Int)
  /-- A real number, which is a number. -/
  | real (value : Binary64)
  | notANumber (id : Nat)
  | text (value : String)
  | list (items : List Value)
  | tuple (items : List Value)
  | mapping (entries : List (Value × Value))
  /-- A set in a table with some room, its members in the order of their slots. -/
  | set (room : Nat) (items : List Value)
  | function (f : Function)
  | method (owner : String) (m : Method)
  | directive (name : String)
  /-- A call to a directive that may still be awaited. -/
  | pending (id : Nat) (name : String) (args : List Value) (named : List (String × Value))
  | error (id : Nat) (type : ErrorType) (args : List Value)
  | errorType (type : ErrorType)
  deriving Inhabited, Repr

/-- An error that a script raised, with its number if it was a value before. -/
structure Raised where
  type : ErrorType
  args : List Value
  id : Option Nat
  deriving Repr

/-- An error of a type with a message. -/
def Raised.because (type : ErrorType) (message : String) : Raised := ⟨type, [.text message], none⟩

/-! ## Operations -/

/-- A value, or the error raised instead. -/
abbrev Outcome (α : Type) := Except Raised α

/-- An operation that may make values with numbers of their own; the state is the next number. -/
abbrev Op (α : Type) := StateT Nat (Except Raised) α

def raised {α : Type} (type : ErrorType) (message : String) : Outcome α :=
  .error (.because type message)

/-- The next number for a value. -/
def freshId : Op Nat := modifyGet fun n => (n, n + 1)

namespace Value

/-- The number of the values that stand for no number in JSON; all of them are one value. -/
def jsonNotANumber : Nat := 0

/-- A result of arithmetic. -/
def ofReal : Binary64 → Op Value
  | .nan => .notANumber <$> freshId
  | x => return .real x

/-! ## JSON -/

mutual

def ofJson : Json → Value
  | .null => .none
  | .bool b => .truth b
  | .int i => .whole i
  | .real .nan => .notANumber jsonNotANumber
  | .real x => .real x
  | .str s => .text s
  | .arr items => .list (ofItems items)
  | .obj fields => .mapping (ofFields fields)

def ofItems : List Json → List Value
  | [] => []
  | v :: rest => ofJson v :: ofItems rest

def ofFields : List (String × Json) → List (Value × Value)
  | [] => []
  | (k, v) :: rest => (.text k, ofJson v) :: ofFields rest

end

end Value
end Pinboard.Script
