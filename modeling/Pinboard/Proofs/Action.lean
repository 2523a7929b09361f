import Pinboard.Proofs.Schedule.Records

/-!
# Views of the state

What an action leaves alone, whether or not it ends in a fault.
-/
namespace Pinboard.Action

variable {σ α β γ : Type}

@[simp] lemma run_pure (a : α) (w : σ) : (pure a : Action σ α).run.run w = (.ok a, w) := rfl

@[simp] lemma run_throw (fault : Fault) (w : σ) :
    (throw fault : Action σ α).run.run w = (.error fault, w) := rfl

lemma run_total (x : StateM σ α) (w : σ) :
    (total x).run.run w = (.ok (x.run w).1, (x.run w).2) := rfl

/-- An action whose outcome is taken as a value gives this value. -/
@[simp] lemma run_total_outcome (x : Action σ α) (w : σ) :
    (total (outcome x)).run.run w = (.ok (x.run.run w).1, (x.run.run w).2) := rfl

lemma run_orElse_ok {x : Action σ α} {a default : α} {w w' : σ}
    (h : x.run.run w = (.ok a, w')) : (orElse x default).run w = (a, w') := by
  have hrun : ExceptT.run x w = (.ok a, w') := h
  rw [StateT.run, orElse, hrun]

lemma run_orElse_error {x : Action σ α} {fault : Fault} {default : α} {w w' : σ}
    (h : x.run.run w = (.error fault, w')) : (orElse x default).run w = (default, w') := by
  have hrun : ExceptT.run x w = (.error fault, w') := h
  rw [StateT.run, orElse, hrun]

/-- The action does nothing that is seen. -/
def Leaves (view : σ → γ) (x : Action σ α) : Prop := ∀ w, view (x.run.run w).2 = view w

variable {view : σ → γ}

lemma leaves_pure (a : α) : Leaves view (pure a : Action σ α) := fun _ => rfl

lemma leaves_throw (fault : Fault) : Leaves view (throw fault : Action σ α) := fun _ => rfl

lemma Leaves.bind {x : Action σ α} {f : α → Action σ β} (hx : Leaves view x)
    (hf : ∀ a, Leaves view (f a)) : Leaves view (x >>= f) := by
  intro w
  have hafter := hx w
  cases hrun : x.run.run w with
  | mk result w₁ =>
  rw [hrun] at hafter
  cases result with
  | ok a =>
    rw [run_bind_ok hrun, hf a w₁]
    exact hafter
  | error fault =>
    rw [run_bind_error hrun]
    exact hafter

/-- A value that is demanded is there in all that follows. -/
lemma Leaves.demand_bind {fault : Fault} {o : Option α} {f : α → Action σ β}
    (hf : ∀ a ∈ o, Leaves view (f a)) : Leaves view (demand fault o >>= f) := by
  cases o with
  | none => exact leaves_throw fault
  | some a => exact hf a rfl

/-! ## Ends -/

/-- The action ends so, and this is seen then. -/
def Ends (view : σ → γ) (x : Action σ α) (w : σ) (result : Except Fault α) (seen : γ) : Prop :=
  ∃ w', x.run.run w = (result, w') ∧ view w' = seen

section Ends

variable {x : Action σ α} {f : α → Action σ β} {w : σ} {between seen : γ}

lemma ends_pure (a : α) : Ends view (pure a : Action σ α) w (.ok a) (view w) := ⟨w, rfl, rfl⟩

lemma Ends.bind {a : α} {result : Except Fault β} (hx : Ends view x w (.ok a) between)
    (hf : ∀ w', view w' = between → Ends view (f a) w' result seen) :
    Ends view (x >>= f) w result seen := by
  obtain ⟨w', hrun, hview⟩ := hx
  obtain ⟨w'', hrun', hview'⟩ := hf w' hview
  exact ⟨w'', (run_bind_ok hrun).trans hrun', hview'⟩

lemma Ends.bind_pure {a : α} (hx : Ends view x w (.ok a) seen) (f : α → β) :
    Ends view (x >>= fun a => pure (f a)) w (.ok (f a)) seen :=
  hx.bind fun _ hview => hview ▸ ends_pure _

lemma Ends.bind_error {fault : Fault} (hx : Ends view x w (.error fault) seen) :
    Ends view (x >>= f) w (.error fault) seen := by
  obtain ⟨w', hrun, hview⟩ := hx
  exact ⟨w', run_bind_error hrun, hview⟩

end Ends

end Pinboard.Action
