import Pinboard.Rehearsal.Directive
import Pinboard.Rehearsal.Machine

/-!
# Rehearsals as data

What a rehearsal consists of, read from records: the scripted host, the answers of the user and of
language models, the document server, and the directives with their behaviours and rules. What a
record leaves out is absent or empty.
-/
namespace Pinboard.Rehearsal

open Record Time

/-- A moment in its written form. -/
def writtenMoment : Reader Timestamp
  | .str s =>
    match Timestamp.read? s with
    | some t => .ok t
    | none => .refuse (.str s) (.momentUnreadable (dateFault s))
  | v => .refuse v .notMoment

/-- A number of things; one below zero counts as zero. -/
def howMany : Reader Nat := fun v => (whole v).map Int.toNat

/-- A text that is absent if the record leaves it out. -/
def optionalText (name : String) (data : Fields Json) : Checked (Option String) :=
  defaulted name none (nullable text) data

/-- A text that is empty if the record leaves it out. -/
def textOrEmpty (name : String) (data : Fields Json) : Checked String := defaulted name "" text data

def texts (name : String) (data : Fields Json) : Checked (List String) :=
  defaulted name [] (listOf text) data

def Scene.read : Reader Scene := recordOf fun data =>
  Scene.mk <$> optionalText "clipboard" data
    <*> optionalText "selected_text" data
    <*> defaulted "app" none (nullable AppRef.read) data
    <*> defaulted "directory" none (nullable FileRef.read) data
    <*> defaulted "files" [] (listOf FileRef.read) data
    <*> defaulted "tab" none (nullable TabRef.read) data
    <*> defaulted "track" none (nullable TrackRef.read) data
    <*> defaulted "shell" [] (mappingOf text) data
    <*> textOrEmpty "shell_default" data
    <*> optionalText "browser" data
    <*> texts "fail" data

def Replies.read : Reader Replies := recordOf fun data =>
  Replies.mk <$> defaulted "prompts" [] (listOf (nullable text)) data
    <*> defaulted "confirms" [] (listOf truth) data
    <*> texts "fail" data

/-- A completion, or a record with the message of a failure. -/
def CompletionReply.read : Reader CompletionReply
  | .str s => .ok (.ok s)
  | v => (recordOf (textOrEmpty "raise") v).map .error

/-- The completions of a language model. -/
def completionsOf : Reader (List CompletionReply) :=
  recordOf (defaulted "replies" [] (listOf CompletionReply.read))

def ServerScene.read : Reader ServerScene := recordOf fun data =>
  ServerScene.mk 0
    <$> defaulted "collections" [] (mappingOf (listOf (recordOf Checked.ok))) data
    <*> texts "fail" data
    <*> defaulted "fail_client" none (nullable (atLeast 0)) data

/-! ## Directives -/

/-- The behaviour of a name; its parameters are in the same record. -/
def Behaviour.ofName (data : Fields Json) : String → Checked Behaviour
  | "const" => .const <$> textOrEmpty "text" data
  | "wrap" => .wrap <$> textOrEmpty "left" data <*> textOrEmpty "right" data
  | "count" => .ok .count
  | "raise" => .ok .fail
  | "value" => .ok (.value ((data.get? "value").getD .null))
  | "remember" => .remember <$> textOrEmpty "key" data <*> textOrEmpty "result" data
  | "recall" => .recall <$> textOrEmpty "key" data <*> optionalText "default" data
  | "args" => .args <$> defaulted "count" 0 howMany data
  | "argument" =>
    .argument <$> defaulted "index" 0 whole data <*> defaulted "count" 0 howMany data
      <*> textOrEmpty "default" data
  | "param" => .param <$> textOrEmpty "key" data <*> textOrEmpty "default" data
  | "resolve" => .ok .resolve
  | "depth" => .ok .depth
  | "pin" => .ok .pin
  | "schedule" => .schedule <$> required "due" writtenMoment data
  | "cancel" => .cancel <$> required "due" writtenMoment data
  | _ => .ok .echo

def Behaviour.read : Reader Behaviour := recordOf fun data =>
  (defaulted "do" "echo" text data).andThen (Behaviour.ofName data)

/-- The rule of a name; its parameters are in the same record. -/
def Condition.ofName (data : Fields Json) : String → Checked Condition
  | "true" => .ok .always
  | "false" => .ok .never
  | "contains" => .contains <$> textOrEmpty "text" data
  | "has" => .has <$> textOrEmpty "key" data
  | "recent" => .recent <$> defaulted "count" 0 howMany data
  | _ => .ok .fail

def Condition.read : Reader Condition := recordOf fun data =>
  (textOrEmpty "rule" data).andThen (Condition.ofName data)

def Role.read : Reader Role := recordOf fun data =>
  Role.mk <$> Identity.read (.obj data)
    <*> defaulted "constant" false truth data
    <*> defaulted "eager" false truth data
    <*> defaulted "rules" [] (listOf Condition.read) data
    <*> defaulted "handler" .echo Behaviour.read data

end Pinboard.Rehearsal
