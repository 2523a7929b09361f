import Pinboard.CommandLine.Run
import Pinboard.Store.Memory

/-!
# A desk

A desk is a machine of its own: its stores are empty and in memory, its moment stands still while a
command runs, and neither a document server nor a provider of language models is within reach.
-/
namespace Pinboard.CommandLine

open Time LanguageModel

/-- Who works at a desk, and where. -/
structure Owner where
  user : String
  home : String
  machine : String

structure Desk where
  now : Timestamp
  environment : Fields String
  generator : StdGen
  pins : List Pin
  groups : List Group
  tags : List Tag
  storage : Fields Json
  clients : List Client
  terminal : Terminal

namespace Desk

/-- An empty desk. -/
def empty (now : Timestamp) (environment : Fields String) (seed : Nat) (input : String) : Desk where
  now := now
  environment := environment
  generator := mkStdGen seed
  pins := []
  groups := []
  tags := []
  storage := []
  clients := []
  terminal := Terminal.ofInput input

/-- A number from zero to a bound. -/
def randomUpTo (bound : Nat) : Action Desk Nat := do
  let d ← get
  let (n, generator) := randNat d.generator 0 bound
  set { d with generator := generator }
  return n

/-- Draw some of the numbers in a row, each at most once. -/
def draw : Nat → List Nat → Action Desk (List Nat)
  | 0, _ => pure []
  | count + 1, numbers => do
    let i ← randomUpTo (numbers.length - 1)
    match numbers[i]? with
    | none => return []
    | some n => return n :: (← draw count (numbers.eraseIdx i))

def host (owner : Owner) : Host Desk where
  user := owner.user
  home := owner.home
  name := owner.machine
  zone := "UTC"
  now := return (← get).now
  freshNumber := randomUpTo (16 ^ 12 - 1)
  stopwatch := pure 0
  pathExists := fun _ => pure false
  sample := fun bound count => draw count (List.range bound)

def memory : Stores Desk where
  pins := Memory.collection ⟨Desk.pins, fun items d => { d with pins := items }⟩
  groups := Memory.collection ⟨Desk.groups, fun items d => { d with groups := items }⟩
  tags := Memory.collection ⟨Desk.tags, fun items d => { d with tags := items }⟩
  storage := Memory.keyValues ⟨Desk.storage, fun values d => { d with storage := values }⟩

/-- A server that does not answer. -/
def server : Server Desk where
  connect := fun _ => pure 0
  selectDatabase := fun _ _ => pure ()
  ping := fun _ => throw .connectionRefused
  close := fun _ => pure ()
  ensure := fun _ => pure ()
  createIndex := fun _ _ => throw .connectionRefused
  ascending := fun _ _ => throw .connectionRefused
  highest? := fun _ _ => throw .connectionRefused
  find? := fun _ _ => throw .connectionRefused
  insertAll := fun _ _ => throw .connectionRefused
  setFields := fun _ _ _ => throw .connectionRefused
  removeAll := fun _ _ => throw .connectionRefused
  replace := fun _ _ _ => throw .connectionRefused
  removeFirst := fun _ _ => throw .connectionRefused

/-- Providers that cannot be reached. -/
def models : Backend Desk where
  readVariable := fun name => return (← get).environment.get? name
  clients := return (← get).clients
  keep := fun c => modify fun d => { d with clients := d.clients ++ [c] }
  clear := modify fun d => { d with clients := [] }
  connect := fun _ _ => pure 0
  answer := fun _ _ => throw .connectionRefused

def machine (owner : Owner) : Machine Desk where
  host := host owner
  memory := memory
  server := server
  models := models
  console := Console.ofTerminal Desk.terminal fun t d => { d with terminal := t }

/-- The desk after a command, and the status or fault with which the command ended. -/
def perform (owner : Owner) (settings : Settings) (command : Command) (d : Desk) :
    Except Fault Nat × Desk :=
  (execute (machine owner) settings command).run d

end Desk
end Pinboard.CommandLine
