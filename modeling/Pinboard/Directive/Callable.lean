import Pinboard.Resolver
import Pinboard.Script.Names

/-!
# The way back into the resolver

Handlers may resolve texts and run directives themselves. Each such step goes one level deeper; the
number of levels is limited, and a step beyond the limit faults.
-/
namespace Pinboard

open Markup

variable {σ : Type}

/-- The spellings of the directives that scripts may call, with the directives' names. -/
def Registry.callable (r : Registry σ) : Fields String :=
  (claims (r.directives.filter fun d => d.kind != .script)).filter fun (s, _) => Script.isCallable s

namespace Resolver

/-- The way back at a given number of levels that remain. -/
def reentry (r : Resolver σ) : Nat → Reentry σ
  | 0 =>
    { resolve := fun _ _ => throw .nesting
      invoke := fun _ _ _ => throw .nesting
      callable := r.registry.callable }
  | levels + 1 =>
    { resolve := fun text context =>
        Action.total (Prod.fst <$> r.resolveIn (some (r.reentry levels)) text context)
      invoke := fun name m context =>
        match r.registry.get? name with
        | some d => Action.total (invokeOn (some (r.reentry levels)) d m context)
        | none => throw .noItem
      callable := r.registry.callable }

/-- The number of levels on which handlers may call the resolver. -/
def levelLimit : Nat := 150

/-- The way back that handlers of an outermost resolution are given. -/
def outermost (r : Resolver σ) : Reentry σ := r.reentry levelLimit

/-- Expand a text. -/
def resolve (r : Resolver σ) (text : String) (context : Context) :
    StateM σ (String × Context) :=
  r.resolveIn (some r.outermost) text context

end Resolver
end Pinboard
