import Pinboard.Builtin.Ambient
import Pinboard.Directive.Declared
import Pinboard.Rehearsal.Host
import Pinboard.Schedule

/-!
# Scripted directives

Directives whose behaviour is chosen from a list, for rehearsals of the resolver. Each run and each
question to a rule is recorded.
-/
namespace Pinboard.Rehearsal

open Markup Time

/-- What a scripted directive does. -/
inductive Behaviour where
  /-- The body, null if there is none. -/
  | echo
  | const (text : String)
  | wrap (left right : String)
  /-- The number of its runs so far. -/
  | count
  | fail
  | value (v : Json)
  /-- A fixed result, and the body as a named output. -/
  | remember (key result : String)
  /-- A value of the context. -/
  | recall (key : String) (default : Option String)
  /-- The arguments, with bars between them. -/
  | args (count : Nat)
  | argument (index : Int) (count : Nat) (default : String)
  | param (key default : String)
  /-- The body, resolved one level deeper. -/
  | resolve
  | depth
  /-- The name of the pin in the context. -/
  | pin
  | schedule (due : Timestamp)
  | cancel (due : Timestamp)

/-- What a scripted rule answers. -/
inductive Condition where
  | always
  | never
  | fail
  | contains (text : String)
  | has (key : String)
  | recent (count : Nat)

def bodyJson (m : Occurrence) : Json := Json.ofOption .str m.body

def Condition.name : Condition → String
  | .always => "true"
  | .never => "false"
  | .fail => "raise"
  | .contains _ => "contains"
  | .has _ => "has"
  | .recent _ => "recent"

/-- A rule that records its question before it answers. -/
def recordedRule (name : String) (answer : String → Context → Action World Bool) : Rule World where
  name := name
  check := fun text context => do
    record "rule" [.str name, .str text]
    answer text context

def Condition.rule (c : Condition) : Rule World :=
  match c with
  | .always => recordedRule c.name fun _ _ => pure true
  | .never => recordedRule c.name fun _ _ => pure false
  | .fail => recordedRule c.name fun _ _ => throw (.gaveUp "rule failed")
  | .contains part => recordedRule c.name fun text _ => pure (Text.contains part text)
  | .has key => recordedRule c.name fun _ context => pure (context.values.has key)
  | .recent count =>
    Builtin.minRecentApplications (services ⟨false, false, false⟩ Settings.default) count

/-- Record a run of a directive. -/
def recordRun (name : String) (m : Occurrence) : Action World Unit := do
  record "run"
    [.str name, .str m.text, .str m.name, .obj (m.params.map fun (k, v) => (k, .str v)),
      Json.ofStrings m.flags, bodyJson m]
  modify fun w => { w with runs := w.runs.set name ((w.runs.get? name).getD 0 + 1) }

namespace Behaviour

/-- The reply to one occurrence. -/
def reply (name : String) (m : Occurrence) (context : Context) (reentry : Option (Reentry World)) :
    Behaviour → Action World Reply
  | .echo => pure (.value (bodyJson m))
  | .const text => pure (.ofText text)
  | .wrap left right => pure (.ofText (left ++ m.bodyText ++ right))
  | .count => return .ofText (Number.natText (((← get).runs.get? name).getD 0))
  | .fail => throw (.gaveUp (name ++ " failed"))
  | .value v => pure (.value v)
  | .remember key result => pure (.named result [(key, m.bodyText)])
  | .recall key default =>
    pure (.value (Json.ofOption .str (context.values.get? key <|> default)))
  | .args most => pure (.ofText (Text.join "|" (m.arguments most)))
  | .argument index most default => do
    let text ← Action.demand .noItem (m.argument? index most default)
    pure (.ofText text)
  | .param key default => pure (.ofText (m.param key default))
  | .resolve => do
    match reentry with
    | some reentry => return .ofText (← reentry.resolve m.bodyText context.nested)
    | none => throw .noResolver
  | .depth => pure (.ofText (Number.natText context.depth))
  | .pin => pure (.ofText ((context.pin.elim "no pin" (·.name)) ++ "/None"))
  | .schedule due => do
    let _ ← Schedule.schedule storage Stored.deferredKey m.bodyText due
    pure Reply.nothing
  | .cancel due =>
    return .value (.bool (← Schedule.cancel storage Stored.deferredKey m.bodyText due))

end Behaviour

/-- What a rehearsal says of a directive of its own. -/
structure Role where
  identity : Identity
  constant : Bool
  eager : Bool
  rules : List Condition
  behaviour : Behaviour

def Role.directive (r : Role) : Directive World :=
  { r.identity.directive fun m context reentry => do
      recordRun r.identity.name m
      r.behaviour.reply r.identity.name m context reentry with
    constant := r.constant
    eager := r.eager
    rules := r.rules.map Condition.rule }

end Pinboard.Rehearsal
