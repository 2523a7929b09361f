import Pinboard.Number.Decimal
import Pinboard.Number.Shortest
import Pinboard.Script.Value
import Pinboard.Text.Basic
import Pinboard.Text.Quoted

/-!
# Texts of values

How values of a script are shown. A value that holds a whole number with too many digits has no
text.
-/
namespace Pinboard.Script

open Number

def Function.shown : Function → String
  | .length => "<built-in function len>"
  | .text => "<class 'str'>"
  | .whole => "<class 'int'>"
  | .sum => "<built-in function sum>"
  | .sorted => "<built-in function sorted>"
  | .set => "<class 'set'>"
  | .readJson => "<function loads>"
  | .writeJson => "<function dumps>"
  | .method m => "<method '" ++ m.name ++ "' of 'str' objects>"
  | .other name => "<built-in function " ++ name ++ ">"

namespace Value

mutual

/-- A value as a member of a collection. -/
def shown : Value → String
  | .none => "None"
  | .truth b => if b then "True" else "False"
  | .whole i => intText i
  | .real x => x.text
  | .notANumber _ => Binary64.nan.text
  | .text s => Text.quoted s
  | .list items => "[" ++ Text.join ", " (allShown items) ++ "]"
  | .tuple [item] => "(" ++ shown item ++ ",)"
  | .tuple items => "(" ++ Text.join ", " (allShown items) ++ ")"
  | .mapping entries => "\x7b" ++ Text.join ", " (entriesShown entries) ++ "\x7d"
  | .set _ items =>
    if items.isEmpty then "set()" else "\x7b" ++ Text.join ", " (allShown items) ++ "\x7d"
  | .function f => Function.shown f
  | .method _ m => "<built-in method " ++ m.name ++ " of str object>"
  | .directive name => "<function " ++ name ++ ">"
  | .pending _ name _ _ => "<coroutine object " ++ name ++ ">"
  | .error _ type args => type.name ++ "(" ++ Text.join ", " (allShown args) ++ ")"
  | .errorType type => "<class '" ++ type.name ++ "'>"

def allShown : List Value → List String
  | [] => []
  | v :: rest => shown v :: allShown rest

def entriesShown : List (Value × Value) → List String
  | [] => []
  | (k, v) :: rest => (shown k ++ ": " ++ shown v) :: entriesShown rest

end

/-- A value as text. An error is its message, which is its only argument or all of them; the key of
a failed look-up is shown as a member. -/
def display : Value → String
  | .text s => s
  | .error _ _ [] => ""
  | .error _ type [v] => if type = .badKey then shown v else display v
  | .error _ _ args => shown (.tuple args)
  | v => shown v

/-! ## Limits -/

/-- The least number with more digits than are written. -/
def unwritable : Nat := 10 ^ digitLimit

mutual

/-- Whether all whole numbers in a value can be written. -/
def isWritable : Value → Bool
  | .whole i => i.natAbs < unwritable
  | .list items => allWritable items
  | .tuple items => allWritable items
  | .mapping entries => entriesWritable entries
  | .set _ items => allWritable items
  | .error _ _ args => allWritable args
  | _ => true

def allWritable : List Value → Bool
  | [] => true
  | v :: rest => isWritable v && allWritable rest

def entriesWritable : List (Value × Value) → Bool
  | [] => true
  | (k, v) :: rest => isWritable k && isWritable v && entriesWritable rest

end

def tooManyDigits {α : Type} : Outcome α := raised .badValue unwritableMessage

/-- A value as text, if it has one. -/
def displayed (v : Value) : Outcome String := if v.isWritable then .ok v.display else tooManyDigits

/-- A value as a member of a collection, if it can be written. -/
def showing (v : Value) : Outcome String := if v.isWritable then .ok v.shown else tooManyDigits

/-- A value as an argument or a result: nothing is the empty text. -/
def plainText : Value → Outcome String
  | .none => .ok ""
  | v => v.displayed

end Value

/-- The message of a raised error, if it can be written. -/
def Raised.message (e : Raised) : Outcome String :=
  (Value.error 0 e.type e.args).displayed

end Pinboard.Script
