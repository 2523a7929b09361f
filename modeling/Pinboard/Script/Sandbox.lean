import Pinboard.Directive.Basic
import Pinboard.Json.Display
import Pinboard.Script.Policy
import Pinboard.Script.Run

/-!
# Sandboxes

A sandbox runs scripts that may call some directives, with a copy of the outputs so far and within a
time limit. Forbidden scripts are refused before anything runs; the outputs of the context are never
changed by a script.
-/
namespace Pinboard.Script

open Markup Number

structure Sandbox (σ : Type) where
  /-- The names that scripts may call. -/
  callables : List String
  call : String → List String → Fields String → Action σ String
  outputs : Fields String
  /-- Seconds for one script. -/
  timeout : Binary64

namespace Sandbox

variable {σ : Type}

/-- Every directive that a script may call, run in a context. The context's settings give the time
limit unless one is given. -/
def ofContext (reentry : Reentry σ) (context : Context) (timeout : Option Binary64) :
    Sandbox σ where
  callables := reentry.callable.keys
  call := fun spelling args named =>
    match reentry.callable.get? spelling with
    | some name => reentry.invoke name (Occurrence.ofCall name args named) context
    | none => throw (.noKey spelling)
  outputs := context.values
  timeout := timeout.getD context.settings.scriptTimeout

/-- Perform a call for a script; a failure is told by its message. -/
def dispatch (s : Sandbox σ) (name : String) (args : List String) (named : Fields String) :
    StateM σ (Except String String) := do
  if s.callables.contains name then
    match ← Action.outcome (s.call name args named) with
    | .ok text => return .ok text
    | .error fault => return .error fault.message
  else return .error ("'" ++ name ++ "' is not available to scripts")

/-- The arguments in a message: the members of a collection, each as text. -/
def argumentsOf : Option Json → Except String (List String)
  | none => .ok []
  | some (.arr items) => .ok (items.map Json.display)
  | some (.obj fields) => .ok (Fields.keys fields)
  | some (.str s) => .ok (s.toList.map Char.toString)
  | some _ => .error "argument after * must be an iterable"

/-- The named arguments in a message, each as text. -/
def namedOf : Option Json → Except String (Fields String)
  | none => .ok []
  | some (.obj fields) => .ok (fields.map fun (k, v) => (k, v.display))
  | some _ => .error "argument after ** must be a mapping"

/-- Answer a message that asks for a call. A message that names nothing that could be called is a
fault; arguments that cannot be given are a failure of the call. -/
def answer (s : Sandbox σ) (message : Json) : Action σ (Except String String) :=
  match message with
  | .obj fields =>
    match fields.lookup "call" with
    | none => throw (.noKey "call")
    | some (.arr _) | some (.obj _) => throw .wrongType
    | some name =>
      match argumentsOf (fields.lookup "args"), namedOf (fields.lookup "kwargs") with
      | .ok args, .ok named => Action.total (s.dispatch name.display args named)
      | .error cause, _ | .ok _, .error cause =>
        if s.callables.contains name.display then return .error cause
        else Action.total (s.dispatch name.display [] [])
  | _ => throw .wrongType

/-- A call as a script sees it: its failure is an error of the script. -/
def perform (s : Sandbox σ) : Perform σ := fun name args named => do
  match ← s.dispatch name args named with
  | .ok text => return .ok (.text text)
  | .error message => return .error (.because .runtime message)

/-- Why a script that ended early failed. An error without a message that can be written takes the
worker down. -/
def faultOf : Stop → ScriptFault
  | .timeout => .timeout
  | .raised error =>
    match error.message with
    | .ok message => .raised error.type.name message
    | .error _ => .workerLost

/-- The bytes that a line of a worker may have. -/
def lineLimit : Nat := 2 ^ 24

/-- The bytes of the line that tells a result. -/
def lineLength (text : String) : Nat :=
  text.foldl (fun n c => n + (Json.escapedChar c).length) 14

/-- A result, unless its line is too long. -/
def resultOf (text : String) : Except ScriptFault String :=
  if lineLimit < lineLength text then .error .answerTooLong else .ok text

/-- Run a program that passed the check, as it is read again by the worker. -/
def runProgram (s : Sandbox σ) (program : Reread Program) :
    StateM σ (Except ScriptFault String) := do
  match program with
  | .error .numberTooLong => return .error .numberTooLong
  | program =>
    if s.timeout.le (.ofNat 0) then return .error .timeout
    else
      match program with
      | .error _ => return .error (faultOf (.raised (.because .malformed "invalid syntax")))
      | .ok program =>
        let outputs := s.outputs.map fun (k, v) => (Value.text k, Value.text v)
        match ← Script.run s.perform outputs s.callables program with
        | .ok text => return resultOf text
        | .error stop => return .error (faultOf stop)

/-- Run a script and give its result as text. -/
def run (s : Sandbox σ) (source : String) : StateM σ (Except ScriptFault String) :=
  match check source with
  | .error fault => return .error fault
  | .ok program => s.runProgram (capture program).reread

end Sandbox
end Pinboard.Script
