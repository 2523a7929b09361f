import Pinboard.Proofs.Action

/-!
# Transitions

A computation takes the state it starts in to the state it ends in, whether or not it ends in a
fault. Where this keeps to a relation that is reflexive and transitive, so does everything that is
made of such computations.
-/
namespace Pinboard

variable {σ α β : Type} {R : σ → σ → Prop}

/-- Wherever it starts, the computation ends where the relation allows. -/
def KeepsTo (R : σ → σ → Prop) (x : StateM σ α) : Prop := ∀ w, R w (x.run w).2

/-- The same of an action. -/
def Action.KeepsTo (R : σ → σ → Prop) (x : Action σ α) : Prop := Pinboard.KeepsTo R x.run

lemma KeepsTo.map {x : StateM σ α} (h : KeepsTo R x) (f : α → β) : KeepsTo R (f <$> x) := h

lemma KeepsTo.total {x : StateM σ α} (h : KeepsTo R x) : (Action.total x).KeepsTo R := h

lemma keepsTo_pure [Std.Refl R] (a : α) : KeepsTo R (pure a : StateM σ α) :=
  fun w => Std.Refl.refl w

lemma KeepsTo.bind [IsTrans σ R] {x : StateM σ α} {f : α → StateM σ β} (hx : KeepsTo R x)
    (hf : ∀ a, KeepsTo R (f a)) : KeepsTo R (x >>= f) :=
  fun w => IsTrans.trans _ _ _ (hx w) (hf _ _)

namespace Action

variable {x : Action σ α} {f : α → Action σ β}

lemma KeepsTo.orElse (h : x.KeepsTo R) (default : α) :
    Pinboard.KeepsTo R (Action.orElse x default) := by
  intro w
  have hend := h w
  cases hrun : x.run.run w with
  | mk result w₁ =>
  have hrun' : ExceptT.run x w = (result, w₁) := hrun
  rw [hrun] at hend
  rw [StateT.run, Action.orElse, hrun']
  cases result <;> exact hend

lemma Leaves.keepsTo {γ : Type} {view : σ → γ} (h : x.Leaves view)
    (hview : ∀ w w', view w' = view w → R w w') : x.KeepsTo R := fun w => hview _ _ (h w)

section Refl

variable [Std.Refl R]

lemma keepsTo_pure (a : α) : (pure a : Action σ α).KeepsTo R := fun w => Std.Refl.refl w

lemma keepsTo_throw (fault : Fault) : (throw fault : Action σ α).KeepsTo R :=
  fun w => Std.Refl.refl w

lemma keepsTo_demand (fault : Fault) (o : Option α) : (demand fault o).KeepsTo R := by
  cases o with
  | none => exact keepsTo_throw fault
  | some a => exact keepsTo_pure a

lemma keepsTo_ofExcept (result : Except Fault α) : (ofExcept result : Action σ α).KeepsTo R := by
  cases result with
  | ok a => exact keepsTo_pure a
  | error fault => exact keepsTo_throw fault

lemma keepsTo_ofChecked (record : String) (checked : Record.Checked α) :
    (ofChecked record checked : Action σ α).KeepsTo R := by
  cases checked with
  | ok a => exact keepsTo_pure a
  | failed faults => exact keepsTo_throw _

/-- A value that is demanded is there in all that follows. -/
lemma KeepsTo.demand_bind {fault : Fault} {o : Option α} (hf : ∀ a ∈ o, (f a).KeepsTo R) :
    (demand fault o >>= f).KeepsTo R := by
  cases o with
  | none => exact keepsTo_throw fault
  | some a => exact hf a rfl

end Refl

lemma KeepsTo.bind [IsTrans σ R] (hx : x.KeepsTo R) (hf : ∀ a, (f a).KeepsTo R) :
    (x >>= f).KeepsTo R := by
  intro w
  have hfirst := hx w
  cases hrun : x.run.run w with
  | mk result w₁ =>
  rw [hrun] at hfirst
  cases result with
  | ok a =>
    rw [run_bind_ok hrun]
    exact IsTrans.trans _ _ _ hfirst (hf a w₁)
  | error fault =>
    rw [run_bind_error hrun]
    exact hfirst

lemma keepsTo_mapM [Std.Refl R] [IsTrans σ R] {f : α → Action σ β} (h : ∀ a, (f a).KeepsTo R)
    (items : List α) : (items.mapM f).KeepsTo R := by
  induction items with
  | nil => exact keepsTo_pure _
  | cons a items ih =>
    rw [List.mapM_cons]
    exact .bind (h a) fun _ => .bind ih fun _ => keepsTo_pure _

end Action

end Pinboard
