import Pinboard.Directive.Callable
import Pinboard.Proofs.Resolution.Bounds
import Pinboard.Proofs.Transitions

/-!
# Transitions of a resolution

What a resolution does to the state is what the rules and handlers of its directives do, one after
the other. Handlers reach the resolver on the levels below, so a relation that all of them keep to
whenever the way back does is kept to on every level.
-/
namespace Pinboard

open Markup

variable {σ : Type} {R : σ → σ → Prop}

/-- Whatever is resolved or run on the way back keeps to the relation. -/
structure Reentry.KeepsTo (R : σ → σ → Prop) (re : Reentry σ) : Prop where
  resolve : ∀ text context, (re.resolve text context).KeepsTo R
  invoke : ∀ name m context, (re.invoke name m context).KeepsTo R

/-- The rules and the handler of a directive keep to the relation. -/
structure Directive.KeepsTo (R : σ → σ → Prop) (reentry : Option (Reentry σ)) (d : Directive σ) :
    Prop where
  rules : ∀ rule ∈ d.rules, ∀ text context, (rule.check text context).KeepsTo R
  handler : ∀ m context, (d.handler m context reentry).KeepsTo R

variable [Std.Refl R] [IsTrans σ R] {reentry : Option (Reentry σ)}

namespace Directive

lemma keepsTo_anyAccepts {text : String} {context : Context} {rules : List (Rule σ)}
    (h : ∀ rule ∈ rules, ∀ text context, (rule.check text context).KeepsTo R) :
    Pinboard.KeepsTo R (anyAccepts text context rules) := by
  induction rules with
  | nil => exact keepsTo_pure _
  | cons rule rules ih =>
    rw [anyAccepts]
    refine .bind ((h rule List.mem_cons_self text context).orElse false) fun accepted => ?_
    cases accepted with
    | true => exact keepsTo_pure true
    | false => exact ih fun rule hrule => h rule (List.mem_cons_of_mem _ hrule)

variable {d : Directive σ} (h : d.KeepsTo R reentry)
include h

lemma KeepsTo.applies (text : String) (context : Context) :
    Pinboard.KeepsTo R (d.applies text context) := by
  rw [Directive.applies]
  split
  · exact keepsTo_pure true
  · exact keepsTo_anyAccepts h.rules

omit [Std.Refl R] [IsTrans σ R] in
lemma KeepsTo.run (m : Occurrence) (context : Context) :
    Pinboard.KeepsTo R (d.run m context reentry) := (h.handler m context).orElse _

lemma KeepsTo.loop {allowance : Nat} {s s' : Sweep} {w w' : σ} {turns : List Turn}
    (hloop : Sweep.Loop d reentry allowance s w turns s' w') : R w w' := by
  induction hloop with
  | spent | absent => exact Std.Refl.refl _
  | @refused s s' w w₁ w' m turns _ _ _ hrules _ ih =>
    have hasked : R w w₁ := by simpa only [hrules] using h.applies m.text s.context w
    exact IsTrans.trans _ _ _ hasked ih
  | known _ _ _ _ ih => exact ih
  | @handled s s' w w₁ w₂ w' m reply turns _ _ _ hrules hrun _ ih =>
    have hasked : R w w₁ := by simpa only [hrules] using h.applies m.text s.context w
    have hran : R w₁ w₂ := by simpa only [hrun] using h.run m s.context w₁
    exact IsTrans.trans _ _ _ hasked (IsTrans.trans _ _ _ hran ih)

end Directive

section Runs

variable {ds : List (Directive σ)} (h : ∀ d ∈ ds, d.KeepsTo R reentry) {limit : Nat}
  {p p' : Progress} {w w' : σ}
include h

lemma Progress.Round.keepsTo {log : List Entry} (hround : Round limit reentry ds p w log p' w') :
    R w w' := by
  induction hround with
  | nil => exact Std.Refl.refl _
  | @cons d ds p p' w w₁ w' s turns log first _ ih =>
    have hfirst : R w w₁ := (h d List.mem_cons_self).loop first
    exact IsTrans.trans _ _ _ hfirst (ih fun d' hd' => h d' (List.mem_cons_of_mem _ hd'))

lemma Progress.Rounds.keepsTo {logs : List (List Entry)}
    (hrounds : Rounds limit reentry ds p w logs p' w') : R w w' := by
  induction hrounds with
  | last round _ => exact round.keepsTo h
  | more round _ _ ih => exact IsTrans.trans _ _ _ (round.keepsTo h) ih

end Runs

namespace Resolver

variable {r : Resolver σ}

theorem keepsTo_resolveIn (h : ∀ d ∈ r.registry.directives, d.KeepsTo R reentry) (text : String)
    (context : Context) : KeepsTo R (r.resolveIn reentry text context) := by
  intro w
  obtain ⟨logs, result, w', hcourse⟩ := Course.total r reentry text context w
  rw [hcourse.resolveIn_eq]
  cases hcourse with
  | unmarked => exact Std.Refl.refl w
  | resolved _ rounds => exact rounds.keepsTo fun d hd => h d (Registry.mem_ordered.mp hd)

lemma keepsTo_invokeOn {d : Directive σ} (h : d.KeepsTo R reentry) (m : Occurrence)
    (context : Context) : KeepsTo R (invokeOn reentry d m context) := by
  refine .bind (h.applies m.text context) fun accepted => ?_
  cases accepted with
  | false => exact keepsTo_pure _
  | true => exact .bind (h.run m context) fun _ => keepsTo_pure _

/-- If the directives keep to a relation whenever the way back does, then it does on every level. -/
theorem keepsTo_reentry
    (h : ∀ re : Reentry σ, re.KeepsTo R → ∀ d ∈ r.registry.directives, d.KeepsTo R (some re))
    (levels : Nat) : (r.reentry levels).KeepsTo R := by
  induction levels with
  | zero => exact ⟨fun _ _ => Action.keepsTo_throw _, fun _ _ _ => Action.keepsTo_throw _⟩
  | succ levels ih =>
    refine ⟨fun text context => ?_, fun name m context => ?_⟩
    · exact ((keepsTo_resolveIn (h _ ih) text context).map Prod.fst).total
    · simp only [reentry]
      split
      · rename_i d hd
        exact (keepsTo_invokeOn (h _ ih d (List.mem_of_find?_eq_some hd)) m context).total
      · exact Action.keepsTo_throw _

end Resolver

end Pinboard
