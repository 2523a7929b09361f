import Pinboard.Builtin.Basic
import Pinboard.Launch
import Pinboard.Number.ReadReal
import Pinboard.Schedule
import Pinboard.State.Variables
import Pinboard.Time.Duration

/-!
# Effects without interaction

Directives that defer, complete prompts, run commands, open pins, keep variables and use the
clipboard.
-/
namespace Pinboard.Builtin

open Markup

variable {σ : Type} (services : Services σ)

def durationFault (text : String) : Time.DurationFault → Fault
  | .absent => .noDuration text
  | .unknownUnit => .unknownUnit
  | .outOfRange => .outOfRange

/-- The text that says how long a deferral waits: the flags, else a parameter. -/
def waitText (m : Occurrence) : String :=
  let flags := Text.join " " m.flags
  if flags.isEmpty then m.paramText "duration" else flags

def delay : Directive σ :=
  { directive .static "delay" "Schedules the body to be resolved after a delay." fun m _ _ => do
      let target := m.bodyText
      if target.isEmpty then pure Reply.nothing
      else
        let micros ← Action.ofExcept
          ((Time.readDuration (waitText m)).mapError (durationFault (waitText m)))
        let due ← Action.demand .outOfRange ((← services.host.now).plus? micros)
        let _ ← Schedule.schedule services.storage Stored.deferredKey target due
        match services.notifier with
        | some notifier => notifier.showToast "Scheduled Delayed Evaluation" ""
        | none => pure ()
        pure Reply.nothing with
    eager := true
    example_ := marked ("delay 5m:" ++ marked "toast:Stand up") }

/-- Two thirds of a prompt, for the next attempt. -/
def shortened (prompt : String) : String := Text.take (2 * prompt.length / 3) prompt

/-- Ask for a completion until one succeeds, each time with a shorter prompt. -/
def attempt (completion : Completion σ) (model : Option String) (creativity : Number.Binary64) :
    Nat → String → StateM σ (Option String)
  | 0, _ => pure none
  | attempts + 1, prompt => do
    match ← Action.outcome (completion.complete prompt model creativity) with
    | .ok response => pure (some (Text.replaceChar '"' '\'' (Text.strip response)))
    | .error _ => attempt completion model creativity attempts (shortened prompt)

/-- The creativity that an occurrence asks for. -/
def creativityOf (m : Occurrence) (settings : Settings) : Except Fault Number.Binary64 :=
  match givenParam? m "creativity" with
  | none => .ok settings.creativity
  | some raw =>
    match Number.readReal? raw with
    | some x => .ok x
    | none => .error (.notReal raw)

def ai : Directive σ :=
  { directive .static "ai" "The response to a prompt from the configured AI model."
      fun m context _ => do
        let prompt := m.bodyText
        if Text.isBlankText prompt then pure Reply.nothing
        else
          let settings := context.settings
          let completion ← services.needCompletion
          let creativity ← Action.ofExcept (creativityOf m settings)
          match ← Action.total (attempt completion (givenParam? m "model") creativity
              settings.completionAttempts (Text.take settings.promptLimit prompt)) with
          | some response => pure (.ofText response)
          | none => throw (.completionFailed settings.completionAttempts) with
    aliases := ["askAI", "AI"]
    example_ := marked ("ai model=\"claude-3-5-haiku-latest\" creativity=0.5:Summarize "
      ++ marked "clipboardText") }

def shell : Directive σ :=
  { directive .static "shell" "The output of a shell command." fun m _ _ => do
      let command := m.bodyText
      if Text.isBlankText command then pure Reply.nothing
      else
        let platform ← services.needPlatform
        pure (.ofText (Text.dropTrailing '\n' (← platform.runShell command))) with
    example_ := marked "shell:ls ~/Desktop" }

/-- Open a pin one level deeper. -/
def openNested (reentry : Reentry σ) (context : Context) (p : Pin) : Action σ Unit := do
  let _ ← Launch.openPin services reentry.resolve p none [] (context.depth + 1)

/-- Open pins one level deeper, one after the other. -/
def openEach (reentry : Reentry σ) (context : Context) : List Pin → Action σ Unit
  | [] => pure ()
  | p :: ps => do
    openNested services reentry context p
    openEach reentry context ps

def launchPin : Directive σ :=
  { directive .static "launchPin" "Opens another pin by name, id or alias."
      fun m context reentry => do
        let ref := reference m
        let found ← if ref.isEmpty then pure none else findPin services ref
        match found, reentry with
        | some p, some reentry => openNested services reentry context p
        | _, _ => pure ()
        pure Reply.nothing with
    aliases := ["openPin", "runPin"]
    example_ := marked "launchPin:myPinName" }

def launchGroup : Directive σ :=
  { directive .static "launchGroup" "Opens every pin in a group, in stored order."
      fun m context reentry => do
        let ref := reference m
        let found ← if ref.isEmpty then pure none else findGroup services ref
        match found, reentry with
        | some g, some reentry =>
          let members := (← services.pins.list).filter fun p => p.group == g.name
          openEach services reentry context members
        | _, _ => pure ()
        pure Reply.nothing with
    aliases := ["openGroup"]
    example_ := marked "launchGroup:myGroupName" }

def setVariable : Directive σ :=
  { directive .static "set" "Sets a persistent variable." fun m _ _ => do
      match m.arguments 2 with
      | name :: value :: _ =>
        if !Text.isBlankText name then
          Variables.set services.storage (Text.strip name) value
      | _ => pure ()
      pure Reply.nothing with
    aliases := ["setVar"]
    example_ := marked "set:counter:1" }

def resetVariable : Directive σ :=
  { directive .static "reset" "Resets a persistent variable to its first value." fun m _ _ => do
      if !(reference m).isEmpty then
        let _ ← Variables.reset services.storage (reference m)
      pure Reply.nothing with
    aliases := ["resetVar"]
    example_ := marked "reset:counter" }

def deleteVariable : Directive σ :=
  { directive .static "delete" "Deletes a persistent variable." fun m _ _ => do
      if !(reference m).isEmpty then
        let _ ← Variables.delete services.storage (reference m)
      pure Reply.nothing with
    aliases := ["deleteVar"]
    example_ := marked "delete:counter" }

def copy : Directive σ :=
  { directive .static "copy" "Copies the body to the clipboard." fun m _ _ => do
      let platform ← services.needPlatform
      platform.setClipboard m.bodyText
      pure Reply.nothing with
    example_ := marked "copy:Hello" }

def paste : Directive σ :=
  { directive .static "paste" "Pastes the body into the frontmost application." fun m _ _ => do
      let platform ← services.needPlatform
      platform.paste m.bodyText
      pure Reply.nothing with
    example_ := marked "paste:Hello" }

def ignore : Directive σ :=
  { directive .static "ignore" "Discards the body after directives inside it have run."
      fun m context reentry => do
        match reentry with
        | some reentry =>
          if !m.bodyText.isEmpty then
            let _ ← reentry.resolve m.bodyText context
        | none => pure ()
        pure Reply.nothing with
    aliases := ["IGNORE"]
    example_ := marked ("ignore:" ++ marked "shell:touch ~/done") }

def effects : List (Directive σ) :=
  [delay services, ai services, shell services, launchPin services, launchGroup services,
    setVariable services, resetVariable services, deleteVariable services, copy services,
    paste services, ignore]

end Pinboard.Builtin
