import Pinboard.Builtin.Basic

/-!
# Interaction

Directives that show messages, ask questions and change pins and groups. A change is stored before
the next directive runs.
-/
namespace Pinboard.Builtin

open Markup

variable {σ : Type} (services : Services σ)

def expiredGroup : String := "Expired Pins"

def truthyWords : List String := ["true", "yes", "1"]

def isTruthy (s : String) : Bool := truthyWords.contains (Text.lower s)

/-- Create a group unless one with the name or id exists or none is wanted. -/
def ensureGroup (name : String) : Action σ Unit := do
  if name == noGroup then pure ()
  else
    match ← findGroup services name with
    | some _ => pure ()
    | none =>
      let fresh ← services.fresh
      let group :=
        if name == expiredGroup then Group.new fresh name "BellDisabled" .hidden
        else Group.new fresh name "None" .useParent
      let _ ← services.groups.add [group]

def alert : Directive σ :=
  { directive .interactive "alert" "Shows a modal alert and waits until it is dismissed."
      fun m _ _ => do
        let notifier ← services.needNotifier
        notifier.showAlert ((givenParam? m "title").getD "Alert") m.bodyText
        pure Reply.nothing with
    example_ := marked "alert title=\"Reminder\":Drink water" }

def dialog : Directive σ :=
  { directive .interactive "dialog"
      "Shows a dialog; with ``input=true`` the entered text is substituted." fun m _ _ => do
        let notifier ← services.needNotifier
        let title := (givenParam? m "title").getD "Dialog"
        if isTruthy (m.paramText "input") then
          pure (.ofText ((← notifier.prompt m.bodyText title "").getD ""))
        else
          notifier.showAlert title m.bodyText
          pure Reply.nothing with
    example_ := marked "dialog title=\"Name\" input=true:What is your name?" }

def toast : Directive σ :=
  { directive .interactive "toast" "Shows a short notification." fun m _ _ => do
      let notifier ← services.needNotifier
      notifier.showToast m.bodyText (m.paramText "message")
      pure Reply.nothing with
    aliases := ["hud"]
    example_ := marked "toast message=\"Done\":Backup" }

def say : Directive σ :=
  { directive .interactive "say" "Speaks the body aloud." fun m _ _ => do
      let platform ← services.needPlatform
      platform.speak m.bodyText (givenParam? m "voice")
      pure Reply.nothing with
    aliases := ["speak"]
    example_ := marked "say voice=\"Samantha\":Hello" }

def userInput : Directive σ :=
  { directive .interactive "input" "Asks the user for text and substitutes the answer."
      fun m _ _ => do
        let notifier ← services.needNotifier
        let question := if m.bodyText.isEmpty then "Input" else m.bodyText
        pure (.ofText ((← notifier.prompt question (m.paramText "title") "").getD "")) with
    aliases := ["prompt"]
    example_ := marked "input:Search for" }

/-- The group that a new pin goes to: a parameter, else the third argument, else none. -/
def wantedGroup (m : Occurrence) (args : List String) : String :=
  match givenParam? m "group" with
  | some group => group
  | none =>
    match args[2]? with
    | some arg => if Text.isBlankText arg then noGroup else Text.strip arg
    | none => noGroup

/-- The target of a new pin: the second argument if it has text, else the name. -/
def wantedTarget (name : String) (args : List String) : String :=
  match args[1]? with
  | some target => if target.isEmpty then name else target
  | none => name

def createPin : Directive σ :=
  { directive .interactive "createPin"
      "Creates a new pin; the target defaults to the name, the group to 'None'." fun m _ _ => do
        let args := m.arguments 3
        let name := Text.strip (args.head?.getD "")
        if name.isEmpty then pure Reply.nothing
        else
          let group := wantedGroup m args
          ensureGroup services group
          let fresh ← services.fresh
          let _ ← services.pins.add [Pin.new fresh name (wantedTarget name args) group]
          pure Reply.nothing with
    example_ := marked "createPin:myPinName:myPinTarget:myPinGroup" }

/-- Whether a pin may be deleted: silently, or with the user's consent. -/
def mayDelete (m : Occurrence) (p : Pin) : Action σ Bool := do
  if isTruthy (m.paramText "silent") then pure true
  else
    let notifier ← services.needNotifier
    notifier.confirm ("Are you sure you want to delete the pin '" ++ p.name ++ "'?") "Delete Pin"

def deletePin : Directive σ :=
  { directive .interactive "deletePin"
      "Deletes a pin, asking for confirmation unless ``silent=true``." fun m _ _ => do
        let ref := reference m
        let found ← if ref.isEmpty then pure none else findPin services ref
        match found with
        | none => pure ()
        | some p => if ← mayDelete services m p then services.pins.remove [p]
        pure Reply.nothing with
    example_ := marked "deletePin silent=true:myPinName" }

def movePin : Directive σ :=
  { directive .interactive "movePin" "Moves a pin to a group, creating the group if needed."
      fun m _ _ => do
        match m.arguments 2 with
        | ref :: group :: _ =>
          if !Text.isBlankText ref && !Text.isBlankText group then
            match ← findPin services (Text.strip ref) with
            | none => pure ()
            | some p =>
              ensureGroup services (Text.strip group)
              services.pins.update [{ p with group := Text.strip group }]
        | _ => pure ()
        pure Reply.nothing with
    example_ := marked "movePin:pinName:groupName" }

def interaction : List (Directive σ) :=
  [alert services, dialog services, toast services, say services, userInput services,
    createPin services, deletePin services, movePin services]

end Pinboard.Builtin
