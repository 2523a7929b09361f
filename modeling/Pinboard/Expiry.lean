import Pinboard.Context
import Pinboard.Services

/-!
# Expiry of pins

A pin whose moment of expiry has passed is removed, hidden or disabled, or a text of its own is
resolved with the pin in the context. Every expired pin that is kept loses its moment of expiry.
-/
namespace Pinboard.Expiry

open Time

variable {σ : Type}

structure Summary where
  removed : Nat
  hidden : Nat
  disabled : Nat
  /-- The pins with a text to resolve, as they were stored. -/
  custom : List Pin
  deriving DecidableEq, Repr

namespace Summary

def total (s : Summary) : Nat := s.removed + s.hidden + s.disabled + s.custom.length

def counted (n : Nat) (noun : String) : String :=
  Number.natText n ++ " " ++ noun ++ (if n = 1 then "" else "s")

def part (n : Nat) (text : String) : List String := if n = 0 then [] else [text]

def capitalized (s : String) : String :=
  match s.toList with
  | [] => ""
  | c :: cs => String.ofList (c.toUpper :: cs)

/-- One line that names what was done, empty if nothing was. -/
def message (s : Summary) : String :=
  capitalized (Text.join ", "
    (part s.removed ("removed " ++ counted s.removed "expired pin")
      ++ part s.hidden ("hid " ++ counted s.hidden "pin")
      ++ part s.disabled ("disabled " ++ counted s.disabled "pin")
      ++ part s.custom.length
        ("ran custom expiration actions for " ++ counted s.custom.length "pin")))

end Summary

/-- What is done with an expired pin. -/
inductive Outcome where
  | remove
  | hide
  | disable
  | custom
  /-- An action of no known kind only clears the moment of expiry. -/
  | clear
  deriving DecidableEq, Repr

def outcome (p : Pin) : Outcome :=
  if p.expiryAction = "" ∨ p.expiryAction = "delete" then .remove
  else if p.expiryAction = "hide" then .hide
  else if p.expiryAction = "disable" then .disable
  else if Text.startsWith "custom" p.expiryAction then .custom
  else .clear

/-- Whether a pin expired before `now`; undefined if the moments cannot be compared. -/
def isExpired? (now : Timestamp) (p : Pin) : Option Bool :=
  match p.expires with
  | none => some false
  | some t => t.assumeUtc.lt? now

/-- An expired pin that is kept, as it is stored from now on. -/
def settle (p : Pin) : Pin :=
  let kept := { p with expires := none }
  match outcome p with
  | .hide => { kept with visibility := .hidden }
  | .disable => { kept with visibility := .disabled }
  | _ => kept

@[simp] theorem settle_expires (p : Pin) : (settle p).expires = none := by
  simp only [settle]; split <;> rfl

@[simp] theorem settle_id (p : Pin) : (settle p).id = p.id := by
  simp only [settle]; split <;> rfl

def countOf (o : Outcome) (pins : List Pin) : Nat := (pins.filter fun p => outcome p = o).length

def summaryOf (expired : List Pin) : Summary where
  removed := countOf .remove expired
  hidden := countOf .hide expired
  disabled := countOf .disable expired
  custom := expired.filter fun p => outcome p = .custom

/-- The expired pins, or a fault if one cannot be compared. -/
def expiredPins (now : Timestamp) : List Pin → Except Fault (List Pin)
  | [] => .ok []
  | p :: ps =>
    match isExpired? now p with
    | none => .error .incomparable
    | some expired => (expiredPins now ps).map fun rest => if expired then p :: rest else rest

def resolveCustom (resolve : String → Context → Action σ String) (settings : Settings) :
    List Pin → Action σ Unit
  | [] => pure ()
  | p :: ps => do
    let _ ← resolve p.expiryAction (Context.assemble settings (some p) none [] 0)
    resolveCustom resolve settings ps

/-- Apply the expiry of every pin that expired before `now`. -/
def check (services : Services σ) (resolve : String → Context → Action σ String)
    (now : Option Timestamp) : Action σ Summary := do
  let now ← match now with
    | some t => pure t
    | none => services.host.now
  let expired ← Action.ofExcept (expiredPins now (← services.pins.list))
  let removed := expired.filter fun p => outcome p = .remove
  let kept := expired.filter fun p => outcome p ≠ .remove
  if !removed.isEmpty then services.pins.remove removed
  if !kept.isEmpty then services.pins.update (kept.map settle)
  let summary := summaryOf expired
  if summary.message ≠ "" then
    match services.notifier with
    | some notifier => notifier.showMessage summary.message
    | none => pure ()
  resolveCustom resolve services.settings summary.custom
  pure summary

end Pinboard.Expiry
