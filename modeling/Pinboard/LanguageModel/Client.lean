import Pinboard.Services
import Pinboard.Text.Lowercase

/-!
# Clients of language models

A client answers prompts with one model of one provider. Clients are built on first use and kept,
one for each provider and model; what a provider needs to know is read from the environment when a
client is built.
-/
namespace Pinboard.LanguageModel

open Number

variable {σ : Type}

inductive Provider where
  | anthropic | openai
  deriving DecidableEq, Repr

namespace Provider

def all : List Provider := [anthropic, openai]

def name : Provider → String
  | anthropic => "anthropic"
  | openai => "openai"

def ofName? (s : String) : Option Provider := all.find? fun p => p.name == s

/-- The model that answers if none is chosen. -/
def defaultModel : Provider → String
  | anthropic => "claude-3-5-haiku-latest"
  | openai => "gpt-4o-mini"

/-- The highest temperature that a provider takes. -/
def maxTemperature : Provider → Binary64
  | anthropic => .ofNat 1
  | openai => .ofNat 2

/-- A temperature within what a provider takes. -/
def clamp (p : Provider) (temperature : Binary64) : Binary64 :=
  let capped := if p.maxTemperature.lt temperature then p.maxTemperature else temperature
  if (Binary64.ofNat 0).lt capped then capped else .ofNat 0

end Provider

/-- How a client proves who it is, and where it connects to if that is not the provider itself. -/
structure Credentials where
  key : String
  address : Option String
  deriving DecidableEq, Repr

structure Client where
  provider : Provider
  model : String
  /-- The number of its connection. -/
  connection : Nat
  deriving DecidableEq, Repr

/-- What a model is asked. -/
structure Generation where
  prompt : String
  temperature : Binary64
  maxTokens : Int
  /-- Further options, passed on as they are. -/
  options : Fields Json

/-- What clients need of their surroundings. -/
structure Backend (σ : Type) where
  /-- A variable of the environment. -/
  readVariable : String → Action σ (Option String)
  /-- The clients kept. -/
  clients : Action σ (List Client)
  keep : Client → Action σ Unit
  /-- Forget all clients. -/
  clear : Action σ Unit
  /-- Open a connection to a provider. -/
  connect : Provider → Credentials → Action σ Nat
  /-- Have a model answer; the temperature is one that the provider takes. -/
  answer : Client → Generation → Action σ (Option String)

variable (b : Backend σ)

/-- A value other than the empty text. -/
def given? : Option String → Option String
  | some s => if s.isEmpty then none else some s
  | none => none

/-- A variable that must have a value. -/
def needVariable (name : String) : Action σ String := do
  Action.demand (.noVariable name) (given? (← b.readVariable name))

/-- The most tokens of a completion. -/
def tokenLimit : Action σ Int := do
  match ← b.readVariable "LLM_MAX_TOKENS" with
  | none => return 1024
  | some s => Action.ofExcept ((readWhole 10 s.toList).mapError (Fault.ofNumeral s))

/-- What a provider wants to know. An own key goes before a gateway, which takes any key. -/
def credentials : Provider → Action σ Credentials
  | .anthropic => do
    match given? (← b.readVariable "ANTHROPIC_API_KEY") with
    | some key => return ⟨key, none⟩
    | none =>
      match given? (← b.readVariable "ANTHROPIC_BASE_URL") with
      | some gateway => return ⟨"dummy", some gateway⟩
      | none => throw .noCredentials
  | .openai => do
    let key ← needVariable b "OPENAI_API_KEY"
    return ⟨key, ← b.readVariable "OPENAI_BASE_URL"⟩

/-- The provider of a name in any case, the first one if no name is given. -/
def providerOf (name : Option String) : Except Fault Provider :=
  let wanted := Text.lower ((given? name).getD Provider.anthropic.name)
  match Provider.ofName? wanted with
  | some p => .ok p
  | none => .error (.unknownProvider wanted (Provider.all.map Provider.name))

/-- The client of a provider and model, built if there is none yet. -/
def client (provider model : Option String) : Action σ Client := do
  let p ← Action.ofExcept (providerOf provider)
  let model := (given? model).getD p.defaultModel
  match (← b.clients).find? fun c => c.provider = p ∧ c.model = model with
  | some c => return c
  | none =>
    let c : Client := ⟨p, model, ← b.connect p (← credentials b p)⟩
    b.keep c
    return c

/-- Have a client answer. One provider may answer with nothing, which is the empty text for the
other. -/
def generate (c : Client) (g : Generation) : Action σ (Option String) := do
  let reply ← b.answer c { g with temperature := c.provider.clamp g.temperature }
  match c.provider with
  | .anthropic => return reply
  | .openai => return some (reply.getD "")

/-- Complete a prompt with the chosen provider and model, else with those of the settings. -/
def complete (settings : Settings) (provider model : Option String) (prompt : String)
    (callModel : Option String) (creativity : Binary64) : Action σ (Option String) := do
  let provider := (given? provider).getD settings.provider
  let model := (given? model).or settings.model
  let c ← client b (some provider) ((given? callModel).or model)
  let limit ← tokenLimit b
  generate b c ⟨prompt, creativity, limit, []⟩

/-- Completion by the provider and model of the settings. -/
def completion (settings : Settings) : Completion σ where
  complete := fun prompt model creativity =>
    return (← complete b settings none none prompt model creativity).getD ""

end Pinboard.LanguageModel
