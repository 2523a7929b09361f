import Pinboard.Directive.Registry

/-!
# Resolution

The resolver expands the directives in a text. It goes through the registry in the order of
resolution; each directive is swept over the text, its leftmost applicable occurrence being replaced
until none is left. Passes over the registry repeat while they replace something. How often each
directive may replace in one resolution is limited, so a result that brings its own occurrence back
does no harm. A rule or handler that faults counts as a refusal or gives nothing; resolution itself
never faults.
-/
namespace Pinboard

open Markup

variable {σ : Type}

namespace Directive

/-- Whether one of some rules accepts; a rule that faults refuses, and the first to accept ends the
questions. -/
def anyAccepts (text : String) (context : Context) : List (Rule σ) → StateM σ Bool
  | [] => pure false
  | rule :: rules => do
    if ← Action.orElse (rule.check text context) false then pure true
    else anyAccepts text context rules

/-- Whether a directive applies to an occurrence: it has no rules, or one of them accepts. -/
def applies (d : Directive σ) (text : String) (context : Context) : StateM σ Bool :=
  if d.rules.isEmpty then pure true else anyAccepts text context d.rules

/-- The handler's reply, nothing if it faults. -/
def run (d : Directive σ) (m : Occurrence) (context : Context) (reentry : Option (Reentry σ)) :
    StateM σ Reply :=
  Action.orElse (d.handler m context reentry) Reply.nothing

/-- The text already known for an occurrence of a constant directive: what the same occurrence gave
earlier in the sweep or, for one without body and parameters, the context's value. -/
def known? (d : Directive σ) (context : Context) (cache : Fields String) (m : Occurrence) :
    Option String :=
  if d.constant then
    match cache.get? m.text with
    | some s => some s
    | none => if m.body.isNone && m.params.isEmpty then context.values.get? d.name else none
  else none

/-- An occurrence to be replaced: where the search for it began, and its text if that is known. -/
structure Target where
  occurrence : Occurrence
  searchedFrom : Nat
  known : Option String

/-- The next occurrence to be replaced. Occurrences that the rules refuse are passed over; the fuel
bounds their number. -/
def nextTarget (d : Directive σ) (context : Context) (cache : Fields String) (text : List Char) :
    Nat → Nat → StateM σ (Option Target)
  | 0, _ => pure none
  | fuel + 1, position =>
    match find? d.spellings (!d.eager) position text with
    | none => pure none
    | some m =>
      match d.known? context cache m with
      | some s => pure (some ⟨m, position, some s⟩)
      | none => do
        if ← d.applies m.text context then pure (some ⟨m, position, none⟩)
        else nextTarget d context cache text fuel m.stop

end Directive

/-- One directive on its way over a text. -/
structure Sweep where
  text : List Char
  context : Context
  position : Nat
  cache : Fields String
  /-- Replacements made. -/
  replaced : Nat

namespace Sweep

/-- Put a result in the place of an occurrence. -/
def splice (text : List Char) (m : Occurrence) (result : String) : List Char :=
  text.take m.start ++ result.toList ++ text.drop m.stop

/-- The sweep after a target's text became known. -/
def substitute (s : Sweep) (t : Directive.Target) (result : String) : Sweep :=
  { s with
    text := splice s.text t.occurrence result
    position := t.searchedFrom
    replaced := s.replaced + 1 }

/-- Keep what a handler replied: its outputs in the context, a constant's text in the cache. -/
def learn (s : Sweep) (d : Directive σ) (m : Occurrence) (reply : Reply) : Sweep :=
  { s with
    context := if reply.outputs.isEmpty then s.context else s.context.withOutputs reply.outputs
    cache := if d.constant then s.cache.set m.text reply.text else s.cache }

/-- Replace one target after the other, as often as is allowed. -/
def go (d : Directive σ) (reentry : Option (Reentry σ)) : Nat → Sweep → StateM σ Sweep
  | 0, s => pure s
  | allowed + 1, s => do
    match ← d.nextTarget s.context s.cache s.text (s.text.length + 1) s.position with
    | none => pure s
    | some t =>
      match t.known with
      | some result => go d reentry allowed (s.substitute t result)
      | none =>
        let reply ← d.run t.occurrence s.context reentry
        go d reentry allowed ((s.learn d t.occurrence reply).substitute t reply.text)

end Sweep

/-- A resolution under way: text and context, and how often each directive has replaced. -/
structure Progress where
  text : List Char
  context : Context
  counts : Fields Nat
  /-- Whether the current pass has replaced anything. -/
  changed : Bool

namespace Progress

def count (p : Progress) (name : String) : Nat := (p.counts.get? name).getD 0

/-- Sweep one directive over the text. -/
def apply (limit : Nat) (reentry : Option (Reentry σ)) (p : Progress) (d : Directive σ) :
    StateM σ Progress := do
  let swept ← Sweep.go d reentry (limit - p.count d.name) ⟨p.text, p.context, 0, [], 0⟩
  pure
    { text := swept.text
      context := swept.context
      counts := p.counts.set d.name (p.count d.name + swept.replaced)
      changed := p.changed || swept.replaced != 0 }

/-- Sweep each directive in turn. -/
def pass (limit : Nat) (reentry : Option (Reentry σ)) (directives : List (Directive σ))
    (p : Progress) : StateM σ Progress :=
  directives.foldlM (Progress.apply limit reentry) { p with changed := false }

/-- Passes while they replace something and markers are left; the fuel bounds their number. -/
def passes (limit : Nat) (reentry : Option (Reentry σ)) (directives : List (Directive σ)) :
    Nat → Progress → StateM σ Progress
  | 0, p => pure p
  | fuel + 1, p => do
    let p ← p.pass limit reentry directives
    if p.changed && hasMarker p.text then passes limit reentry directives fuel p else pure p

end Progress

/-- A registry with its limit of replacements per directive; without one, the context's counts. -/
structure Resolver (σ : Type) where
  registry : Registry σ
  limit : Option Nat

namespace Resolver

def limitIn (r : Resolver σ) (context : Context) : Nat :=
  r.limit.getD context.settings.maxIterations

/-- More passes than can replace something. -/
def passBound (r : Resolver σ) (context : Context) : Nat :=
  r.registry.size * r.limitIn context + 1

/-- Expand a text; gives the text and the context with the outputs of the directives that ran. -/
def resolveIn (r : Resolver σ) (reentry : Option (Reentry σ)) (text : String) (context : Context) :
    StateM σ (String × Context) := do
  if hasMarker text.toList then
    let p ← Progress.passes (r.limitIn context) reentry r.registry.ordered (r.passBound context)
      ⟨text.toList, context, [], false⟩
    pure (String.ofList p.text, p.context)
  else pure (text, context)

/-- Run one directive on an occurrence; nothing if its rules refuse. -/
def invokeOn (reentry : Option (Reentry σ)) (d : Directive σ) (m : Occurrence)
    (context : Context) : StateM σ String := do
  if ← d.applies m.text context then
    let reply ← d.run m context reentry
    pure reply.text
  else pure ""

/-- Run one directive on its first occurrence in a text; nothing if there is none. -/
def invokeText (reentry : Option (Reentry σ)) (d : Directive σ) (text : String)
    (context : Context) : StateM σ String :=
  match find? d.spellings false 0 text.toList with
  | none => pure ""
  | some m => invokeOn reentry d m context

end Resolver
end Pinboard
