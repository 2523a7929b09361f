import Pinboard.Record.Scalar

/-!
# Settings

Limits, formats and addresses of the engine. A setting is given directly or by an environment
variable `PINS_<NAME>`, whose name may be written in any case; else it has its default.
-/
namespace Pinboard

open Record Number

structure Settings where
  /-- How often each directive may substitute in one resolution. -/
  maxIterations : Nat
  /-- How many launches may be nested. -/
  maxLaunchDepth : Nat
  scriptTimeout : Binary64
  completionAttempts : Nat
  creativity : Binary64
  promptLimit : Nat
  provider : String
  model : Option String
  dateFormat : String
  timeFormat : String
  databaseAddress : Option String
  databaseName : String
  deriving DecidableEq, Repr

namespace Settings

def default : Settings where
  maxIterations := 250
  maxLaunchDepth := 5
  scriptTimeout := .ofNat 1
  completionAttempts := 10
  creativity := .ofNat 1
  promptLimit := 2048
  provider := "anthropic"
  model := none
  dateFormat := "%d %B %Y"
  timeFormat := "%H:%M:%S"
  databaseAddress := none
  databaseName := "pins"

/-- A number above zero. -/
def positive : Reader Binary64 := fun v =>
  (real v).andThen fun x => if (Binary64.ofNat 0).lt x then .ok x else .refuse v (.notAbove 0)

/-- A number from zero to two. -/
def creativityRange : Reader Binary64 := fun v =>
  (real v).andThen fun x =>
    if !x.le (.ofNat 2) then .refuse v (.aboveMaximum 2)
    else if x.lt (.ofNat 0) then .refuse v (.belowMinimum 0)
    else .ok x

def names : List String :=
  ["max_iterations", "max_launch_depth", "script_timeout_seconds", "ai_max_attempts",
    "ai_default_creativity", "ai_max_prompt_chars", "llm_provider", "llm_model", "date_format",
    "time_format", "mongo_uri", "mongo_db"]

/-- The value that the environment gives a setting, the last of several spellings counting. -/
def fromEnvironment? (env : Fields String) (name : String) : Option Json :=
  (env.reverse.find? fun (k, _) => Text.lower k == "pins_" ++ name).map fun (_, v) => .str v

/-- The data of all settings, given directly or by the environment. -/
def gather (given : Fields Json) (env : Fields String) : Fields Json :=
  names.filterMap fun name =>
    match given.get? name with
    | some v => some (name, v)
    | none => (fromEnvironment? env name).map fun v => (name, v)

def ofFields (data : Fields Json) : Checked Settings :=
  let d := default
  Settings.mk <$> defaulted "max_iterations" d.maxIterations (atLeast 1) data
    <*> defaulted "max_launch_depth" d.maxLaunchDepth (atLeast 1) data
    <*> defaulted "script_timeout_seconds" d.scriptTimeout positive data
    <*> defaulted "ai_max_attempts" d.completionAttempts (atLeast 1) data
    <*> defaulted "ai_default_creativity" d.creativity creativityRange data
    <*> defaulted "ai_max_prompt_chars" d.promptLimit (atLeast 1) data
    <*> defaulted "llm_provider" d.provider text data
    <*> defaulted "llm_model" d.model (nullable text) data
    <*> defaulted "date_format" d.dateFormat text data
    <*> defaulted "time_format" d.timeFormat text data
    <*> defaulted "mongo_uri" d.databaseAddress (nullable text) data
    <*> defaulted "mongo_db" d.databaseName text data

def read (given : Fields Json) (env : Fields String) : Checked Settings :=
  ofFields (gather given env)

def fields (s : Settings) : Fields Json :=
  [("max_iterations", .ofNat s.maxIterations), ("max_launch_depth", .ofNat s.maxLaunchDepth),
    ("script_timeout_seconds", .real s.scriptTimeout),
    ("ai_max_attempts", .ofNat s.completionAttempts),
    ("ai_default_creativity", .real s.creativity), ("ai_max_prompt_chars", .ofNat s.promptLimit),
    ("llm_provider", .str s.provider), ("llm_model", Json.ofOption .str s.model),
    ("date_format", .str s.dateFormat), ("time_format", .str s.timeFormat),
    ("mongo_uri", Json.ofOption .str s.databaseAddress), ("mongo_db", .str s.databaseName)]

end Settings
end Pinboard
