import Pinboard.Script.Reader
import Pinboard.Script.Run

/-!
# Workers

A worker runs one script for a parent that it talks to in messages. It says that it is ready, is
sent a script with the outputs and names that the script sees, sends each call that the script makes
and waits for its reply, and last sends the script's result or the error that ended it.
-/
namespace Pinboard.Script

open Number

/-- The two directions between a worker and its parent. -/
structure Channel where
  /-- Messages of the parent that the worker has not received yet. -/
  incoming : List Json
  /-- Messages that the worker sent, the last one first. -/
  sent : List Json

namespace Channel

def send (message : Fields Json) : StateM Channel Unit :=
  modify fun c => { c with sent := .obj message :: c.sent }

/-- The next message of the parent; none once the parent has closed its side. -/
def receive? : StateM Channel (Option Json) := do
  let c ← get
  set { c with incoming := c.incoming.tail }
  return c.incoming.head?

end Channel

namespace Worker

def closed : Raised := .because .endOfInput "Parent closed the channel"

/-- What a reply to a call means for the script. -/
def ofReply : Json → Except Raised Value
  | .obj fields =>
    match fields.lookup "failed", fields.lookup "result" with
    | some cause, _ => .error ⟨.runtime, [Value.ofJson cause], none⟩
    | none, some v => .ok (.ofJson v)
    | none, none => .error ⟨.badKey, [.text "result"], none⟩
  | _ => .error (.because .badType "a reply must be an object")

/-- Have the parent perform a call. -/
def perform : Perform Channel := fun name args named => do
  Channel.send [("call", .str name), ("args", Json.ofStrings args),
    ("kwargs", .obj (named.map fun (k, v) => (k, .str v)))]
  match ← Channel.receive? with
  | some reply => return ofReply reply
  | none => return .error closed

/-- What the parent asks for. -/
structure Request where
  outputs : List (Value × Value)
  callables : List String
  /-- The script, if there is one. -/
  source : Option Json

/-- The entry of the outputs that is given as the pair at a place. -/
def pairAt (place : Nat) (given : Value) : Outcome (Value × Value) := do
  match ← given.members with
  | [key, v] => do
    Value.needKeys [key]
    return (key, v)
  | items =>
    raised .badValue
      ("dictionary update sequence element #" ++ natText place ++ " has length "
        ++ natText items.length ++ "; 2 is required")

/-- The entries that are given as pairs from a place on. -/
def pairsFrom (place : Nat) : List Value → Outcome (List (Value × Value))
  | [] => .ok []
  | v :: rest => return (← pairAt place v) :: (← pairsFrom (place + 1) rest)

/-- The outputs in a request: an object, or the pairs of its entries. -/
def outputsOf : Json → Outcome (List (Value × Value))
  | .obj fields => .ok (Value.ofFields fields)
  | v => do return Value.merged (← pairsFrom 0 (← (Value.ofJson v).members))

def nameOf : Value → Outcome String
  | .text s => .ok s
  | _ => raised .badType "__name__ must be set to a string object"

/-- The names in a request: those in a collection, or the characters of a text. -/
def namesOf (v : Json) : Outcome (List String) := do (← (Value.ofJson v).members).mapM nameOf

def Request.ofJson : Json → Outcome Request
  | .obj fields => do
    let outputs ← outputsOf ((fields.lookup "outputs").getD (.obj []))
    let callables ← namesOf ((fields.lookup "callables").getD (.arr []))
    return { outputs, callables, source := fields.lookup "source" }
  | _ => raised .unknownAttribute "a request must be an object"

/-- The script of a request. -/
def Request.program (r : Request) : Outcome Program :=
  match r.source with
  | none => .error ⟨.badKey, [.text "source"], none⟩
  | some (.str source) =>
    match read source with
    | .ok program => .ok program
    | .error .malformed => raised .malformed "invalid syntax"
    | .error .holdsNul => raised .badValue "source code string cannot contain null bytes"
  | some _ => raised .badType "a script must be a string"

/-- Run the script of a request. -/
def execute (r : Request) : StateM Channel (Except Stop String) :=
  match r.program with
  | .ok program => run perform r.outputs r.callables program
  | .error e => return .error (.raised e)

/-- Tell the parent of an error that a script raised. An error whose message cannot be written ends
the worker with another one. -/
def report (e : Raised) : StateM Channel (Except Stop Nat) := do
  match e.message with
  | .ok message =>
    Channel.send [("error", .str e.type.name), ("message", .str message)]
    return .ok 1
  | .error other => return .error (.raised other)

/-- Serve one request. Gives zero if the script had a result and one if it raised an error; an error
in the request itself ends the worker. -/
def serve : StateM Channel (Except Stop Nat) := do
  Channel.send [("ready", .bool true)]
  match (← Channel.receive?).map Request.ofJson with
  | none => return .error (.raised closed)
  | some (.error e) => return .error (.raised e)
  | some (.ok request) =>
    match ← execute request with
    | .ok text =>
      Channel.send [("result", .str text)]
      return .ok 0
    | .error (.raised e) => report e
    | .error .timeout => return .error .timeout

end Worker
end Pinboard.Script
