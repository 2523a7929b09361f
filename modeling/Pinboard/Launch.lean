import Pinboard.Context
import Pinboard.Number.Binary64
import Pinboard.State.LastPin

/-!
# Opening pins

To open a pin is to resolve its target and hand the result to the host: a fragment is copied, a path
or URL opened, anything else run as a command. Failures are reported to the user. The pin's use is
recorded either way.
-/
namespace Pinboard.Launch

open Number

variable {σ : Type}

/-! ## Targets -/

/-- Put the home directory in the place of a leading tilde. -/
def expandHome (home target : String) : String :=
  match target.toList with
  | '~' :: rest => home ++ String.ofList rest
  | _ => target

def isPath (target : String) : Bool :=
  match target.toList with
  | c :: _ => c == '/' || c == '~'
  | [] => false

def isSchemeChar (c : Char) : Bool := c.isAlphanum || c == '+' || c == '.' || c == '-'

/-- Whether a text starts with a scheme of at least two characters and a colon. -/
def isUrl (target : String) : Bool :=
  match target.toList with
  | c :: cs =>
    c.isAlpha && !(cs.takeWhile isSchemeChar).isEmpty
      && (cs.dropWhile isSchemeChar).head? == some ':'
  | [] => false

/-- Cut a path at its slashes. -/
def segments : List Char → List (List Char)
  | [] => [[]]
  | c :: cs =>
    if c = '/' then [] :: segments cs
    else match segments cs with
      | [] => [[c]]
      | s :: ss => (c :: s) :: ss

/-- Add a segment to the segments so far, latest first. -/
def pushSegment (done : List (List Char)) (s : List Char) : List (List Char) :=
  if s = [] ∨ s = ['.'] then done
  else if s = ['.', '.'] then done.drop 1
  else s :: done

/-- An absolute path without empty, dot and double-dot segments. Two leading slashes stay. -/
def normalPath (path : String) : String :=
  let lead :=
    match path.toList with
    | '/' :: '/' :: '/' :: _ => ['/']
    | '/' :: '/' :: _ => ['/', '/']
    | _ => ['/']
  let parts := ((segments path.toList).foldl pushSegment []).reverse
  String.ofList (lead ++ ['/'].intercalate parts)

/-- How a pin is called in a report: by its name, else by the start of its target. -/
def label (p : Pin) : String :=
  if !p.name.isEmpty then p.name
  else if p.target.length ≤ 20 then p.target
  else Text.take 19 p.target ++ "..."

/-! ## Handing over -/

/-- The application that a pin asks for. -/
def applicationOf (p : Pin) : Option String :=
  if p.application = "" ∨ p.application = "None" then none else some p.application

/-- Hand a resolved target to the host. -/
def handOver (services : Services σ) (p : Pin) (target : String) : Action σ Unit := do
  let platform ← services.needPlatform
  if isPath p.target then
    if !(← services.host.pathExists target) then throw .fileMissing
    platform.openTarget (normalPath target) (applicationOf p)
  else if isUrl target then platform.openTarget target (applicationOf p)
  else
    let _ ← platform.runShell target
  LastPin.set services.storage p.id

/-- Copy the target of a fragment. -/
def copyFragment (services : Services σ) (p : Pin) : Action σ Unit := do
  let platform ← services.needPlatform
  platform.setClipboard p.target
  match services.notifier with
  | some notifier => notifier.showToast "Copied To Clipboard" ""
  | none => pure ()
  LastPin.set services.storage p.id

/-- Use a pin; gives the resolved target, nothing for a fragment. -/
def use (services : Services σ) (resolve : String → Context → Action σ String) (p : Pin)
    (context : Context) : Action σ String := do
  if p.fragment then
    copyFragment services p
    pure ""
  else
    let target ← resolve (expandHome services.host.home p.target) context
    if !target.isEmpty then handOver services p target
    pure target

/-! ## Statistics -/

/-- The integer nearest to the binary floating-point quotient of two numbers. -/
def roundedQuotient? (n d : Int) : Option Int :=
  if d = 0 then none
  else
    match Binary64.ofRatio (decide (n < 0) != decide (d < 0)) n.natAbs d.natAbs with
    | .finite s m q =>
      some (Binary64.signed s (nearestEven (m * 2 ^ q.toNat) (2 ^ (-q).toNat)))
    | _ => none

/-- The average after one more use; an average of zero counts as none so far. -/
def averageAfter? (average times : Int) (elapsed : Nat) : Option Int :=
  if average = 0 then some elapsed
  else roundedQuotient? (average * times + elapsed) (times + 1)

/-- Record one use of a pin in its stored form, if it is still stored. -/
def recordUse (services : Services σ) (p : Pin) (elapsed : Nat) : Action σ Unit := do
  match (← services.pins.list).find? fun q => q.id == p.id with
  | none => pure ()
  | some stored =>
    match averageAfter? stored.averageTime stored.timesOpened elapsed with
    | none => throw .divisionByZero
    | some average =>
      let now ← services.host.now
      services.pins.update
        [{ stored with
            lastOpened := some now
            timesOpened := stored.timesOpened + 1
            averageTime := average }]

/-! ## Opening -/

def report (services : Services σ) (p : Pin) (fault : Fault) : Action σ Unit :=
  match services.notifier with
  | some notifier =>
    notifier.showMessage ("Failed to open " ++ label p ++ ": " ++ fault.message)
  | none => pure ()

/-- Open a pin; gives the resolved target, nothing for a fragment and for a failure. -/
def openPin (services : Services σ) (resolve : String → Context → Action σ String) (p : Pin)
    (environment : Option Environment) (extras : Fields Json) (depth : Nat) : Action σ String := do
  if services.settings.maxLaunchDepth < depth then
    throw (.launchTooDeep p.name services.settings.maxLaunchDepth)
  let started ← services.host.stopwatch
  let context := Context.assemble services.settings (some p) environment extras depth
  let target ← match ← Action.total (Action.outcome (use services resolve p context)) with
    | .ok target => pure target
    | .error fault => do
      report services p fault
      pure ""
  let stopped ← services.host.stopwatch
  Action.total (Action.orElse (recordUse services p (stopped - started)) ())
  pure target

end Pinboard.Launch
