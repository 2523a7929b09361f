import Pinboard.CommandLine.Desk
import Std.Time.DateTime.Timestamp

/-!
# The program

Arguments, environment, clock and terminal of the process. Standard input is read only if the
command asks for it: the command then runs once more, on all of the input.
-/
namespace Pinboard.CommandLine

open Time

/-- The variables of the environment that are read. -/
def variableNames : List String :=
  Settings.names.map (fun name => Text.upper ("pins_" ++ name))
    ++ ["ANTHROPIC_API_KEY", "ANTHROPIC_BASE_URL", "OPENAI_API_KEY", "OPENAI_BASE_URL",
      "LLM_MAX_TOKENS"]

def readEnvironment : IO (Fields String) :=
  variableNames.filterMapM fun name => do
    return (← IO.getEnv name).map fun value => (name, value)

def readOwner : IO Owner := do
  let get (name : String) : IO String := return (← IO.getEnv name).getD ""
  return ⟨← get "USER", ← get "HOME", ← get "HOSTNAME"⟩

/-- The present moment. -/
def readClock : IO Timestamp := do
  let seconds := (← Std.Time.Timestamp.now).toSecondsSinceUnixEpoch.val
  match Record.momentAt (seconds * 1000000) with
  | .ok t => return t
  | .error _ => throw (IO.userError "the clock is out of range")

def usage : String := "usage: pins [-h] [-v] \x7bresolve,check-due\x7d ..."

/-- Run a command and give its exit status. -/
def runCommand (command : Command) : IO UInt32 := do
  let environment ← readEnvironment
  match Settings.read [] environment with
  | .failed _ =>
    IO.eprintln "the settings in the environment are not valid"
    return 1
  | .ok settings =>
    let owner ← readOwner
    let now ← readClock
    let seed ← IO.rand 0 4294967295
    let start (input : String) : Desk := Desk.empty now environment seed input
    let (outcome, desk) := (start "").perform owner settings command
    let (outcome, desk) ←
      if desk.terminal.asked then do
        let input ← (← IO.getStdin).readToEnd
        pure ((start input).perform owner settings command)
      else pure (outcome, desk)
    IO.print desk.terminal.output
    match outcome with
    | .ok status => return status.toUInt32
    | .error fault =>
      IO.eprintln fault.message
      return 1

end Pinboard.CommandLine

open Pinboard.CommandLine in
def main (arguments : List String) : IO UInt32 := do
  match parse arguments with
  | .ok command => runCommand command
  | .error refusal =>
    (if refusal = .help then IO.println usage else IO.eprintln usage)
    return refusal.status.toUInt32
