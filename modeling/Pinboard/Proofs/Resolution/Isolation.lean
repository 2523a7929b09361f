import Pinboard.Proofs.Resolution.Guards
import Pinboard.Proofs.Resolution.Settled

/-!
# Failures are isolated

A resolver has a twin whose rules refuse and whose handlers reply with nothing where its own fault.
The two cannot be told apart: under the guards of a resolution they give the same texts and contexts
and leave the same states, on every level of reentry. The last guard has nothing to catch unless a
reply is a value that cannot be written.
-/
namespace Pinboard

open Markup

variable {σ : Type}

/-! ## Twins -/

/-- An action does what another does, and gives a default where the other faults. -/
def Action.Quiets {α : Type} (default : α) (x' x : Action σ α) : Prop :=
  ∀ w, x'.run.run w = match x.run.run w with
    | (.ok a, w') => (.ok a, w')
    | (.error _, w') => (.ok default, w')

structure Rule.Quiets (rule' rule : Rule σ) : Prop where
  name : rule'.name = rule.name
  check : ∀ text context, (rule'.check text context).Quiets false (rule.check text context)

/-- The directive has other rules and another handler, and differs in nothing else. -/
structure Directive.Quiets (d' d : Directive σ) : Prop where
  same : { d' with rules := d.rules, handler := d.handler } = d
  rules : List.Forall₂ Rule.Quiets d'.rules d.rules
  handler : ∀ m context reentry,
    (d'.handler m context reentry).Quiets Reply.nothing (d.handler m context reentry)

/-- The twin of a resolver. -/
structure Resolver.Quiets (r' r : Resolver σ) : Prop where
  limit : r'.limit = r.limit
  directives : List.Forall₂ Directive.Quiets r'.registry.directives r.registry.directives

/-! ## There is one twin -/

namespace Action

variable {α : Type}

/-- The action with a default for a fault. -/
def quiet (x : Action σ α) (default : α) : Action σ α := total (orElse x default)

variable {x x' : Action σ α} {default : α}

lemma quiet_quiets (x : Action σ α) (default : α) : (x.quiet default).Quiets default x := by
  intro w
  rw [quiet, run_total]
  cases hrun : x.run.run w with
  | mk result w' =>
  cases result with
  | ok a => rw [run_orElse_ok hrun]
  | error fault => rw [run_orElse_error hrun]

lemma Quiets.eq (h : x'.Quiets default x) : x' = x.quiet default :=
  ExceptT.ext (StateT.ext fun w => (h w).trans (quiet_quiets x default w).symm)

end Action

/-- The rule with a refusal for each fault. -/
def Rule.quiet (rule : Rule σ) : Rule σ :=
  { rule with check := fun text context => (rule.check text context).quiet false }

/-- The directive with a refusal for each fault of its rules and nothing for each of its handler. -/
def Directive.quiet (d : Directive σ) : Directive σ :=
  { d with
    rules := d.rules.map Rule.quiet
    handler := fun m context reentry => (d.handler m context reentry).quiet Reply.nothing }

lemma Rule.Quiets.eq {rule' rule : Rule σ} (h : rule'.Quiets rule) : rule' = rule.quiet := by
  obtain ⟨name, check⟩ := rule'
  obtain rfl : name = rule.name := h.name
  rw [Rule.quiet, Rule.mk.injEq]
  exact ⟨rfl, funext fun text => funext fun context => (h.check text context).eq⟩

lemma Directive.Quiets.eq {d' d : Directive σ} (h : d'.Quiets d) : d' = d.quiet := by
  have hrules : d'.rules = d.rules.map Rule.quiet := by
    have hmap := h.rules.imp fun _ _ hrule => hrule.eq
    exact List.forall₂_eq_eq_eq ▸ List.forall₂_map_right_iff.mpr hmap
  have hhandler : d'.handler = d.quiet.handler :=
    funext fun m => funext fun context => funext fun reentry => (h.handler m context reentry).eq
  calc d' = { ({ d' with rules := d.rules, handler := d.handler } : Directive σ) with
          rules := d'.rules, handler := d'.handler } := rfl
    _ = { d with rules := d'.rules, handler := d'.handler } := by rw [h.same]
    _ = d.quiet := by
        rw [hrules, hhandler]
        rfl

lemma Resolver.Quiets.directives_eq {r' r : Resolver σ} (h : r'.Quiets r) :
    r'.registry.directives = r.registry.directives.map Directive.quiet := by
  have hmap := h.directives.imp fun _ _ hd => hd.eq
  exact List.forall₂_eq_eq_eq ▸ List.forall₂_map_right_iff.mpr hmap

/-! ## The twin under the guards -/

namespace Directive

variable {d : Directive σ} {context : Context} {reentry : Option (Reentry σ)}

lemma asks_quiet (text : String) (context : Context) (rules : List (Rule σ)) :
    asks text context (rules.map Rule.quiet) = asks text context rules := by
  induction rules with
  | nil => rfl
  | cons rule rules ih =>
    rw [List.map_cons, asks, asks, ih, Action.tryCatch_pure, Action.tryCatch_pure]
    rfl

lemma permits_quiet (text : String) : d.quiet.permits text context = d.permits text context := by
  have hempty : d.quiet.rules.isEmpty = d.rules.isEmpty := List.isEmpty_map
  have hasks : asks text context d.quiet.rules = asks text context d.rules := asks_quiet _ _ _
  rw [permits, permits, hempty, hasks]

lemma seek_quiet {cache : Fields String} {text : List Char} (fuel position : Nat) :
    d.quiet.seek context cache text fuel position = d.seek context cache text fuel position := by
  induction fuel generalizing position with
  | zero => rfl
  | succ fuel ih =>
    rw [seek, seek]
    simp only [permits_quiet, ih]
    rfl

/-- Where a handler faults, its twin replies with nothing, and nothing is what the guard gives. -/
lemma answer_quiet (write : Json → Except Fault String) (m : Occurrence) :
    d.quiet.answer write m context reentry = d.answer write m context reentry := by
  refine ExceptT.ext (StateT.ext fun w => ?_)
  have hquiet : (d.quiet.handler m context reentry).run.run w = _ :=
    Action.quiet_quiets (d.handler m context reentry) Reply.nothing w
  cases hrun : (d.handler m context reentry).run.run w with
  | mk result w' =>
  rw [hrun] at hquiet
  cases result with
  | ok reply => rw [run_answer_ok hrun, run_answer_ok hquiet]
  | error fault =>
    rw [run_answer_error hrun, run_answer_ok hquiet]
    rfl

end Directive

lemma Sweep.attempt_quiet (write : Json → Except Fault String) (d : Directive σ)
    (reentry : Option (Reentry σ)) (allowed : Nat) (s : Sweep) :
    attempt write d.quiet reentry allowed s = attempt write d reentry allowed s := by
  induction allowed generalizing s with
  | zero => rfl
  | succ allowed ih =>
    rw [attempt, attempt]
    simp only [Directive.seek_quiet, Directive.answer_quiet, ih]
    rfl

namespace Progress

variable (write : Json → Except Fault String) (limit : Nat) (reentry : Option (Reentry σ))

lemma attempt_quiet (d : Directive σ) (p : Progress) :
    p.attempt write limit reentry d.quiet = p.attempt write limit reentry d := by
  rw [attempt, attempt]
  simp only [Sweep.attempt_quiet]
  rfl

lemma attemptPasses_quiet (ds : List (Directive σ)) (fuel : Nat) (p : Progress) :
    attemptPasses write limit reentry (ds.map Directive.quiet) fuel p =
      attemptPasses write limit reentry ds fuel p := by
  induction fuel generalizing p with
  | zero => rfl
  | succ fuel ih =>
    have hpass : attemptPass write limit reentry (ds.map Directive.quiet) p =
        attemptPass write limit reentry ds p := by
      rw [attemptPass, attemptPass, List.foldlM_map]
      simp only [attempt_quiet]
    simp only [attemptPasses, hpass, ih]

end Progress

namespace Registry

lemma byRank_quiet (ds : List (Directive σ)) :
    byRank (ds.map Directive.quiet) = (byRank ds).map Directive.quiet := by
  rw [byRank, byRank, List.map_flatMap]
  refine List.flatMap_congr fun rank _ => ?_
  rw [List.filter_map]
  rfl

lemma claims_quiet (ds : List (Directive σ)) : claims (ds.map Directive.quiet) = claims ds := by
  rw [claims, claims, List.flatMap_map]
  rfl

variable {r r' : Registry σ} (h : r'.directives = r.directives.map Directive.quiet)
include h

lemma ordered_quiet : r'.ordered = r.ordered.map Directive.quiet := by
  rw [ordered, ordered, h, byRank_quiet]

lemma get?_quiet (spelling : String) : r'.get? spelling = (r.get? spelling).map Directive.quiet := by
  rw [get?, get?, h, List.find?_map]
  rfl

lemma callable_quiet : r'.callable = r.callable := by
  rw [callable, callable, h, List.filter_map, claims_quiet]
  rfl

end Registry

namespace Resolver

variable {r r' : Resolver σ} (h : r'.Quiets r) (write : Json → Except Fault String)
include h

lemma Quiets.limitIn_eq (context : Context) : r'.limitIn context = r.limitIn context := by
  rw [limitIn, limitIn, h.limit]

lemma Quiets.rounds_eq (reentry : Option (Reentry σ)) (text : String) (context : Context) :
    r'.rounds write reentry text context = r.rounds write reentry text context := by
  have hbound : r'.passBound context = r.passBound context := by
    rw [passBound, passBound, h.limitIn_eq, Registry.size, Registry.size, h.directives_eq,
      List.length_map]
  rw [rounds, rounds, Registry.ordered_quiet h.directives_eq, Progress.attemptPasses_quiet, hbound,
    h.limitIn_eq]

lemma Quiets.attempt_eq (reentry : Option (Reentry σ)) (text : String) (context : Context) :
    r'.attempt write reentry text context = r.attempt write reentry text context := by
  rw [attempt, attempt, h.rounds_eq]

/-- The twins lead back to the same. -/
lemma Quiets.wayBack_eq (levels : Nat) : r'.wayBack write levels = r.wayBack write levels := by
  have hcallable := Registry.callable_quiet h.directives_eq
  -- handlers of the twins that reenter do so by the same way back, one level further down
  induction levels with
  | zero => simp only [wayBack, reentry, hcallable]
  | succ levels ih =>
    rw [wayBack, wayBack, ih, Reentry.mk.injEq]
    refine ⟨?_, ?_, hcallable⟩
    · funext text context
      rw [h.attempt_eq]
    · funext name m context
      rw [Registry.get?_quiet h.directives_eq]
      cases r.registry.get? name with
      | none => rfl
      | some d =>
        simp only [Option.map_some, attemptOn, Directive.permits_quiet, Directive.answer_quiet]

end Resolver

/-! ## Every resolver has a twin -/

lemma Rule.quiet_quiets (rule : Rule σ) : rule.quiet.Quiets rule where
  name := rfl
  check text context := Action.quiet_quiets (rule.check text context) false

lemma Directive.quiet_quiets (d : Directive σ) : d.quiet.Quiets d where
  same := rfl
  rules := List.forall₂_map_left_iff.mpr (List.forall₂_same.mpr fun rule _ => rule.quiet_quiets)
  handler m context reentry := Action.quiet_quiets (d.handler m context reentry) Reply.nothing

/-- The twin. -/
def Resolver.quiet (r : Resolver σ) : Resolver σ where
  registry :=
    { directives := r.registry.directives.map Directive.quiet
      distinct := by
        rw [Registry.claims_quiet]
        exact r.registry.distinct }
  limit := r.limit

lemma Resolver.quiet_quiets (r : Resolver σ) : r.quiet.Quiets r where
  limit := rfl
  directives := List.forall₂_map_left_iff.mpr (List.forall₂_same.mpr fun d _ => d.quiet_quiets)

/-! ## Isolation -/

namespace Resolver

/-- Every handler that does not fault replies with nothing, with a text, or with a text and
values. -/
def RepliesPlainly (r : Resolver σ) : Prop :=
  ∀ d ∈ r.registry.directives, ∀ m context reentry,
    (d.handler m context reentry).Yields Reply.IsPlain

/-- Where every value can be displayed, the guarded resolution is the resolver's. -/
lemma attempt_display (r : Resolver σ) (levels : Nat) (text : String) (context : Context) :
    r.attempt (fun v => .ok v.display) (some (r.wayBack (fun v => .ok v.display) levels)) text
        context = Action.total (r.resolveIn (some (r.reentry levels)) text context) := by
  have hwrites : ∀ d ∈ r.registry.directives, d.Writes fun v => .ok v.display :=
    fun d _ => d.writes_display
  rw [attempt_eq hwrites, wayBack_eq hwrites]

/-- Twins resolve a text in the same way. -/
lemma Quiets.resolveIn_eq {r' r : Resolver σ} (h : r'.Quiets r) (levels : Nat) (text : String)
    (context : Context) : r'.resolveIn (some (r'.reentry levels)) text context =
      r.resolveIn (some (r.reentry levels)) text context := by
  refine Action.total_injective ?_
  rw [← attempt_display, ← attempt_display, h.wayBack_eq, h.attempt_eq]

/-- Failures stay where they happen. On every level above the bottom a resolution gives a text,
whatever rules and handlers fault and whatever replies cannot be written. A resolver and its twin
cannot be told apart by what they give or by the states they leave. Plain replies do not get to the
last guard, and the guarded resolution is then the resolver's. So it is for all replies where every
value can be displayed. -/
theorem failures_isolated (r : Resolver σ) (write : Json → Except Fault String) (levels : Nat) :
    (∀ text context w, ∃ answer w',
      ((r.wayBack write (levels + 1)).resolve text context).run.run w = (.ok answer, w')) ∧
    (∀ r' : Resolver σ, r'.Quiets r → ∀ text context,
      r'.attempt write (some (r'.wayBack write levels)) text context =
          r.attempt write (some (r.wayBack write levels)) text context ∧
        r'.resolveIn (some (r'.reentry levels)) text context =
          r.resolveIn (some (r.reentry levels)) text context) ∧
    (r.RepliesPlainly → ∀ text context,
      (∀ w, ∃ p w', (r.rounds write (some (r.wayBack write levels)) text context).run.run w =
        (.ok p, w')) ∧
      r.attempt write (some (r.wayBack write levels)) text context =
        Action.total (r.resolveIn (some (r.reentry levels)) text context)) ∧
    r.wayBack (fun v => .ok v.display) levels = r.reentry levels := by
  refine ⟨fun text context w => ?_, fun r' h text context => ⟨?_, h.resolveIn_eq levels text context⟩,
    fun hplain text context => ?_, wayBack_eq (fun d _ => d.writes_display) levels⟩
  · obtain ⟨result, w', hrun⟩ := r.attempt_run write (some (r.wayBack write levels)) text context w
    refine ⟨result.1, w', ?_⟩
    rw [wayBack, ExceptT.run_map, StateT.run_map, hrun]
    rfl
  · rw [h.wayBack_eq, h.attempt_eq]
  · have hwrites : ∀ d ∈ r.registry.directives, d.Writes write :=
      fun d hd => Directive.writes_of_plain (hplain d hd) write
    refine ⟨fun w => ?_, ?_⟩
    · rw [rounds_eq hwrites]
      exact ⟨_, _, rfl⟩
    · rw [attempt_eq hwrites, wayBack_eq hwrites]

end Resolver

/-! ## A handler that faults -/

/-- A handler that leaves a note before it faults. -/
def boom : Directive (List String) where
  name := "boom"
  aliases := []
  description := ""
  example_ := ""
  kind := .static
  constant := false
  eager := false
  rules := []
  handler := fun _ _ _ => do
    modify fun notes => notes ++ ["ran"]
    throw (.gaveUp "boom")

/-- A rule that leaves a note before it faults. -/
def shy : Directive (List String) where
  name := "shy"
  aliases := []
  description := ""
  example_ := ""
  kind := .static
  constant := false
  eager := false
  rules := [⟨"faults", fun _ _ => do
    modify fun notes => notes ++ ["asked"]
    throw .noItem⟩]
  handler := fun _ _ _ => pure (.ofText "shown")

def loud : Resolver (List String) := ⟨⟨[boom, shy], rfl⟩, some 1⟩

lemma loud_repliesPlainly : loud.RepliesPlainly := by
  intro d hd m context reentry w reply hreply
  rcases List.mem_cons.mp hd with rfl | hd
  · cases hreply
  · obtain rfl := List.mem_singleton.mp hd
    obtain rfl := Except.ok.inj hreply
    exact .inr ⟨"shown", rfl⟩

/-- An occurrence of each. -/
def bothCalled : String := "a\x7b\x7bboom\x7d\x7db\x7b\x7bshy\x7d\x7d"

/-- Nothing takes the place of the one, and the other stays, with the twin as well. -/
theorem Resolver.failures_isolated_loud :
    (loud.resolve bothCalled bareContext).run [] =
      (("ab\x7b\x7bshy\x7d\x7d", bareContext), ["ran", "asked", "asked"]) ∧
    (loud.quiet.resolve bothCalled bareContext).run [] =
      (("ab\x7b\x7bshy\x7d\x7d", bareContext), ["ran", "asked", "asked"]) ∧
    ∃ p w, (loud.rounds (fun _ => .error .wrongType)
      (some (loud.wayBack (fun _ => .error .wrongType) levelLimit)) bothCalled bareContext).run.run
        [] = (.ok p, w) := by
  have hloud : (loud.resolve bothCalled bareContext).run [] =
      (("ab\x7b\x7bshy\x7d\x7d", bareContext), ["ran", "asked", "asked"]) := rfl
  obtain ⟨-, htwins, hplain, -⟩ := failures_isolated loud (fun _ => .error .wrongType) levelLimit
  have hsame : loud.quiet.resolve bothCalled bareContext = loud.resolve bothCalled bareContext :=
    (htwins loud.quiet loud.quiet_quiets bothCalled bareContext).2
  exact ⟨hloud, by rw [hsame, hloud], (hplain loud_repliesPlainly bothCalled bareContext).1 []⟩

end Pinboard
