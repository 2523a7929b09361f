import Pinboard.Script.Call
import Pinboard.Script.Names
import Pinboard.Script.Written

/-!
# Running scripts

Statements run in order on the names that they bind. A call to a directive is performed when it is
awaited; whoever runs the script performs it, on a state of its own. A loop that goes on for too
many rounds counts as one that does not end.
-/
namespace Pinboard.Script

/-- What a running script holds. -/
structure Memory where
  bindings : Fields Value
  /-- The next number for a value. -/
  nextId : Nat
  /-- The numbers of the calls that were awaited. -/
  awaited : List Nat
  /-- The error that a handler is at work on. -/
  handled : Option Raised

/-- Why a script ends early. -/
inductive Stop where
  | raised (error : Raised)
  | timeout

/-- A step of a script over a state `σ` of whoever runs it. -/
abbrev Run (σ α : Type) := ExceptT Stop (StateT Memory (StateM σ)) α

/-- Performs a call to a directive with its arguments. -/
abbrev Perform (σ : Type) := String → List String → Fields String → StateM σ (Except Raised Value)

variable {σ α : Type}

namespace Run

def raise (error : Raised) : Run σ α := throw (.raised error)

/-- The value of an outcome, or its error raised. -/
def ofOutcome : Outcome α → Run σ α
  | .ok v => pure v
  | .error e => raise e

/-- The value of an operation, or its error raised. -/
def ofOp (op : Op α) : Run σ α := do
  let (v, nextId) ← ofOutcome (op.run (← get).nextId)
  modify fun m => { m with nextId }
  return v

def fail (type : ErrorType) (message : String) : Run σ α := raise (.because type message)

def bind (name : String) (value : Value) : Run σ Unit :=
  modify fun m => { m with bindings := m.bindings.set name value }

def unbind (name : String) : Run σ Unit :=
  modify fun m => { m with bindings := m.bindings.erase name }

/-- Run a handler of an error. Inside it an error can be raised again without its name. -/
def handling (error : Raised) (body : Run σ Unit) : Run σ Unit := do
  let before := (← get).handled
  modify fun m => { m with handled := some error }
  tryFinally body (modify fun m => { m with handled := before })

/-- Run a block while a test holds, for a limited number of rounds. -/
def rounds (test : Run σ Bool) (body : Run σ Unit) : Nat → Run σ Unit
  | 0 => throw .timeout
  | n + 1 => do
    if ← test then
      body
      rounds test body n

end Run

/-! ## Names -/

/-- The functions that scripts call, by name. -/
def knownFunctions : Fields Function :=
  [("len", .length), ("str", .text), ("int", .whole), ("sum", .sum), ("sorted", .sorted),
    ("set", .set)]

/-- What a name stands for that a script need not bind. -/
def builtin? (name : String) : Option Value :=
  match ErrorType.ofName? name, knownFunctions.get? name with
  | some t, _ => some (.errorType t)
  | none, some f => some (.function f)
  | none, none => if functionNames.contains name then some (.function (.other name)) else none

def lookUp (name : String) : Run σ Value := do
  match ((← get).bindings.get? name).or (builtin? name) with
  | some v => pure v
  | none => Run.fail .unknownName ("name '" ++ name ++ "' is not defined")

/-! ## Expressions -/

def Literal.toValue : Literal → Value
  | .none => .none
  | .truth b => .truth b
  | .whole n => .whole n
  | .real x => .real x
  | .text s => .text s

/-- The texts that a directive is given for its named arguments. -/
def namedTexts : Fields Value → Outcome (Fields String)
  | [] => .ok []
  | (name, v) :: rest => return (name, ← v.plainText) :: (← namedTexts rest)

/-- Await a call, which can be done once. Its arguments become texts only then. -/
def awaitValue (perform : Perform σ) (v : Value) : Run σ Value := do
  match v with
  | .pending id name args named =>
    let m ← get
    if m.awaited.contains id then Run.fail .runtime "cannot reuse already awaited coroutine"
    else
      set { m with awaited := id :: m.awaited }
      let args ← Run.ofOutcome (args.mapM Value.plainText)
      let named ← Run.ofOutcome (namedTexts named)
      let reply ← (perform name args named : StateM σ _)
      Run.ofOutcome reply
  | _ => Run.fail .badType "object can't be used in 'await' expression"

/-- The entries of a mapping as named arguments. -/
def spreadEntries (v : Value) : Outcome (Fields Value) :=
  match v with
  | .mapping entries => entries.mapM fun (k, v) =>
    match k with
    | .text name => .ok (name, v)
    | _ => raised .badType "keywords must be strings"
  | _ => raised .badType "argument after ** must be a mapping"

mutual

def eval (perform : Perform σ) : Expr → Run σ Value
  | .literal l => pure l.toValue
  | .name _ id => lookUp id
  | .attribute _ base id => do Run.ofOutcome ((← eval perform base).attributeOf id)
  | .item base index => do
    let container ← eval perform base
    Run.ofOutcome (container.item (← eval perform index))
  | .call callee args named => do
    let f ← eval perform callee
    let args ← evalArguments perform args
    let named ← evalNamed perform named
    if allDistinct (named.map (·.1)) then Run.ofOp (f.call args named)
    else Run.fail .badType "got multiple values for keyword argument"
  | .spread _ => Run.fail .malformed "can't use starred expression here"
  | .await call => do awaitValue perform (← eval perform call)
  | .list items => do return .list (← evalAll perform items)
  | .tuple items => do return .tuple (← evalAll perform items)
  | .mapping entries => do Run.ofOutcome (Value.mappingOf (← evalEntries perform entries))
  | .negate operand => do Run.ofOp (← eval perform operand).negate
  | .binary op left right => do
    let a ← eval perform left
    Run.ofOp (op.apply a (← eval perform right))
  | .equal first rest => do evalEqual perform rest (← eval perform first)
  | .function .. => Run.fail .notImplemented "lambda"

def evalAll (perform : Perform σ) : List Expr → Run σ (List Value)
  | [] => pure []
  | e :: rest => do
    let v ← eval perform e
    return v :: (← evalAll perform rest)

/-- The arguments of a call, the items of a spread collection each for itself. -/
def evalArguments (perform : Perform σ) : List Expr → Run σ (List Value)
  | [] => pure []
  | .spread items :: rest => do
    let found ← Run.ofOutcome (← eval perform items).members
    return found ++ (← evalArguments perform rest)
  | e :: rest => do
    let v ← eval perform e
    return v :: (← evalArguments perform rest)

/-- The named arguments of a call, the entries of a spread mapping each for itself. -/
def evalNamed (perform : Perform σ) : List (Option String × Expr) → Run σ (Fields Value)
  | [] => pure []
  | (name, e) :: rest => do
    let v ← eval perform e
    let found ←
      match name with
      | some name => pure [(name, v)]
      | none => Run.ofOutcome (spreadEntries v)
    return found ++ (← evalNamed perform rest)

def evalEntries (perform : Perform σ) : List (Expr × Expr) → Run σ (List (Value × Value))
  | [] => pure []
  | (key, value) :: rest => do
    let k ← eval perform key
    let v ← eval perform value
    return (k, v) :: (← evalEntries perform rest)

/-- Whether a value and those of a row are equal in turn; the first two that differ end the row. -/
def evalEqual (perform : Perform σ) : List Expr → Value → Run σ Value
  | [], _ => pure (.truth true)
  | e :: rest, left => do
    let right ← eval perform e
    if left.same right then evalEqual perform rest right else pure (.truth false)

end

/-! ## Statements -/

/-- Bind a value to a target. A member of a collection is changed in the collection, which then
becomes the value of its own place. -/
def assign (perform : Perform σ) : Expr → Value → Run σ Unit
  | .name _ id, v => Run.bind id v
  | .item base index, v => do
    let container ← eval perform base
    let changed ← Run.ofOutcome (container.withItem (← eval perform index) v)
    assign perform base changed
  | .attribute _ base id, _ => do
    let _ ← eval perform base
    Run.fail .unknownAttribute ("object has no attribute '" ++ id ++ "'")
  | _, _ => pure ()

/-- The value that stands for a raised error: the one that was raised, or a new one. -/
def errorValue (error : Raised) : Run σ Value := do
  match error.id with
  | some id => return .error id error.type error.args
  | none => return .error (← Run.ofOp freshId) error.type error.args

/-- The rounds after which a loop counts as endless. -/
def roundLimit : Nat := 100000

mutual

def exec (perform : Perform σ) : Stmt → Run σ Unit
  | .expr value => do let _ ← eval perform value
  | .assign targets value => do
    let v ← eval perform value
    targets.forM fun target => assign perform target v
  | .pass => pure ()
  | .raise none => do
    match (← get).handled with
    | some error => Run.raise error
    | none => Run.fail .runtime "No active exception to reraise"
  | .raise (some error) => do Run.raise (← eval perform error).raisedBy
  | .return_ _ => Run.fail .malformed "'return' outside function"
  | .while_ test body =>
    Run.rounds (do return (← eval perform test).isTrue) (execAll perform body) roundLimit
  | .try_ body handlers =>
    tryCatch (execAll perform body) fun
      | .raised error => handle perform handlers error
      | .timeout => throw .timeout
  | .import_ _ => Run.fail .importing "__import__ not found"
  | .global _ => pure ()
  | .nonlocal _ => Run.fail .malformed "nonlocal declaration not allowed at module level"
  | .define _ name .. => Run.fail .notImplemented name
  | .class_ _ name .. => Run.fail .notImplemented name

def execAll (perform : Perform σ) : List Stmt → Run σ Unit
  | [] => pure ()
  | s :: rest => do
    exec perform s
    execAll perform rest

/-- Give an error to the first handler that takes it. -/
def handle (perform : Perform σ) : List Handler → Raised → Run σ Unit
  | [], error => Run.raise error
  | h :: rest, error => do
    if !(← offer perform h error) then handle perform rest error

/-- Offer an error to a handler; says whether it was taken. The handler's name for the error is gone
after it. -/
def offer (perform : Perform σ) : Handler → Raised → Run σ Bool
  | .mk _ type bound body, error => do
    let taken ←
      match type with
      | none => pure true
      | some t => Run.ofOutcome ((← eval perform t).catches error.type)
    if taken then
      Run.handling error do
        match bound with
        | none => execAll perform body
        | some name =>
          Run.bind name (← errorValue error)
          tryFinally (execAll perform body) (Run.unbind name)
    return taken

end

/-! ## Programs -/

/-- What a script sees at its start: the outputs so far, the JSON functions, a name for itself and
the directives. -/
def Memory.initial (outputs : List (Value × Value)) (callables : List String) : Memory :=
  let given : Fields Value :=
    [("__name__", .text "__pins_script__"), ("outputs", .mapping outputs),
      ("json_loads", .function .readJson), ("json_dumps", .function .writeJson)]
  { bindings := given.merge (callables.map fun name => (name, .directive name))
    nextId := Value.jsonNotANumber + 1
    awaited := []
    handled := none }

/-- The text of the value that a script left under the name for results; a call is awaited first. -/
def result (perform : Perform σ) : Run σ String := do
  match (← get).bindings.get? resultName with
  | none => pure ""
  | some (.pending id name args named) =>
    Run.ofOutcome (← awaitValue perform (.pending id name args named)).plainText
  | some v => Run.ofOutcome v.plainText

/-- Run a script to its end and give its result. A script with a fault does not begin. -/
def run (perform : Perform σ) (outputs : List (Value × Value)) (callables : List String)
    (program : Program) : StateM σ (Except Stop String) := do
  let steps : Run σ String := do
    if program.isSound then
      execAll perform program
      result perform
    else Run.fail .malformed "invalid syntax"
  let (outcome, _) ← steps.run.run (Memory.initial outputs callables)
  return outcome

/-- A script whose last statement, if it is an expression, gives the result. -/
def capture : Program → Program
  | [] => []
  | [.expr value] => [.assign [.name 0 resultName] value]
  | s :: rest => s :: capture rest

end Pinboard.Script
