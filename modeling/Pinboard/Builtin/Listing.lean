import Pinboard.Builtin.Ambient
import Pinboard.Markup.Escape
import Pinboard.State.LastPin
import Pinboard.State.Variables
import Pinboard.Text.Percent

/-!
# Readings of pins, groups and variables

Directives that report what is stored. The listings are constant in one resolution and escape the
markers in the data; the live readings come after all effects and observe them.
-/
namespace Pinboard.Builtin

open Markup

variable {σ : Type} (services : Services σ)

/-- How many items a parameter asks for; all if it is no row of digits. -/
def amount? (m : Occurrence) : Except Fault (Option Nat) :=
  let raw := m.paramText "amount"
  if !raw.isEmpty && raw.toList.all Text.isDigit then
    match Number.readWhole 10 raw.toList with
    | .ok n => .ok (some n.toNat)
    | .error e => .error (.ofNumeral raw e)
  else .ok none

/-- The items at some indices, in their order. -/
def keepAt {α : Type} (indices : List Nat) (items : List α) : List α :=
  (items.zipIdx.filter fun (_, i) => indices.contains i).map (·.1)

/-- A number of items chosen at random, in their order; all if there are no more. -/
def subset {α : Type} (items : List α) : Option Nat → Action σ (List α)
  | none => pure items
  | some n =>
    if items.length ≤ n then pure items
    else do
      let indices ← services.host.sample items.length n
      pure (keepAt indices items)

/-- Whether pins that were opened can be put in order: all their moments have an offset, or none. -/
def comparable (pins : List Pin) : Bool :=
  let moments := pins.filterMap (·.lastOpened)
  moments.all (·.isAware) || moments.all (!·.isAware)

def openedInstant (p : Pin) : Int := (p.lastOpened.map (·.instant)).getD 0

/-- The latest opened pin first, the pins never opened last; equals keep their order. -/
def sortByLastOpened (pins : List Pin) : Except Fault (List Pin) :=
  let opened := pins.filter (·.lastOpened.isSome)
  if comparable opened then
    .ok (opened.mergeSort (fun p q => decide (openedInstant q ≤ openedInstant p))
      ++ pins.filter (·.lastOpened.isNone))
  else .error .incomparable

/-- The pins that a listing is about. -/
def listedPins (m : Occurrence) : Action σ (List Pin) := do
  let pins ← services.pins.list
  let amount ← Action.ofExcept (amount? m)
  subset services pins amount

def listedGroups (m : Occurrence) : Action σ (List Group) := do
  let groups ← services.groups.list
  let amount ← Action.ofExcept (amount? m)
  subset services groups amount

/-- A listing with an optional amount. -/
def listing (name description : String) (read : Occurrence → Action σ String) : Directive σ :=
  { constant name description fun m _ _ => do
      pure (rememberedUnlessShaped m name (escape (← read m))) with
    example_ := marked (name ++ " amount=3") }

def pinName : Directive σ :=
  constant "pinName" "The name of the pin being resolved." fun _ context _ =>
    pure (.ofText ((context.pin.map (·.name)).getD ""))

def pinNotes : Directive σ :=
  constant "pinNotes" "The notes of the pin being resolved." fun _ context _ =>
    pure (.ofText ((context.pin.map (·.notes)).getD ""))

def pinNames : Directive σ :=
  listing "pinNames" "Comma-separated pin names, most recently opened first." fun m => do
    let pins ← Action.ofExcept (sortByLastOpened (← listedPins services m))
    pure (Text.join ", " (pins.map (·.name)))

def pinTargets : Directive σ :=
  listing "pinTargets" "Comma-separated pin targets, most recently opened first." fun m => do
    let pins ← Action.ofExcept (sortByLastOpened (← listedPins services m))
    pure (Text.join ", " (pins.map (·.target)))

/-- Data as JSON. A number that is too long to be written is a fault. -/
def written (v : Json) : Action σ String := Action.demand .numberTooLong v.print?

def pins : Directive σ :=
  listing "pins" "The JSON representation of all pins (or a random subset with ``amount=``)."
    fun m => do written (Json.arr ((← listedPins services m).map Item.toJson))

def groupNames : Directive σ :=
  listing "groupNames" "Comma-separated group names (or a random subset with ``amount=``)."
    fun m => do pure (Text.join ", " ((← listedGroups services m).map (·.name)))

def groups : Directive σ :=
  listing "groups" "The JSON representation of all groups (or a random subset with ``amount=``)."
    fun m => do written (Json.arr ((← listedGroups services m).map Item.toJson))

/-- The pin opened last, if it is still stored. -/
def lastPin? : Action σ (Option Pin) := do
  match ← LastPin.get? services.storage with
  | none => pure none
  | some id => pure ((← services.pins.list).find? fun p => Json.same (.str p.id) id)

def previousPinName : Directive σ :=
  { constant "previousPinName"
      "The URL-encoded name of the most recently opened pin, or \"\" if none." fun _ _ _ => do
        let value := ((← lastPin? services).map fun p => Text.percentEncode p.name).getD ""
        pure (remembered "previousPinName" value) with
    aliases := ["lastPinName"] }

def previousPinTarget : Directive σ :=
  { constant "previousPinTarget"
      "The URL-encoded target of the most recently opened pin, or \"\" if none." fun _ _ _ => do
        let value := ((← lastPin? services).map fun p => Text.percentEncode p.target).getD ""
        pure (remembered "previousPinTarget" value) with
    aliases := ["lastPinTarget", "previousTarget"] }

/-- A pin as the only one of a stored collection. -/
def pinData (p : Pin) : Json := .obj [("groups", .arr []), ("pins", .arr [Item.toJson p])]

def pinJSON : Directive σ :=
  directive .informational "pinJSON"
    "The JSON representation of the current pin, as currently stored." fun _ context _ => do
      match context.pin with
      | none => pure Reply.nothing
      | some p =>
        let stored := ((← services.pins.list).find? fun q => q.id == p.id).getD p
        pure (.ofText (escapeWith "[[[" "]]]" (← written (pinData stored))))

/-- A generated identifier as text: its twelve digits and twenty zeros in five groups. -/
def uuidText (n : Nat) : String :=
  let ds := Number.hexDigits 12 n
  String.ofList (ds.take 8 ++ '-' :: ds.drop 8) ++ "-0000-0000-000000000000"

def uuid : Directive σ :=
  { directive .informational "uuid" "A new random UUID." fun _ _ _ => do
      pure (.ofText (uuidText (← services.host.freshNumber))) with
    aliases := ["UUID"] }

def getVariable : Directive σ :=
  { directive .informational "get"
      "The value of a persistent variable, or \"\" if it is not set." fun m _ _ => do
        let name := reference m
        if name.isEmpty then pure Reply.nothing
        else pure (.ofText ((← Variables.get? services.storage name).getD "")) with
    example_ := marked "get:counter" }

def stored : List (Directive σ) :=
  [pinName, pinNotes, pinNames services, pinTargets services, pins services, groupNames services,
    groups services, previousApplication services, previousPinName services,
    previousPinTarget services, pinJSON services, uuid services, getVariable services]

end Pinboard.Builtin
