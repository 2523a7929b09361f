import Pinboard.Proofs.Transitions
import Pinboard.Script.Sandbox

/-!
# Transitions of a script

A script touches the state of whoever runs it with the calls that it awaits, and in no other way.
-/
namespace Pinboard.Script

variable {σ α β : Type} {R : σ → σ → Prop}

namespace Run

/-- Whatever the script holds, the step keeps to the relation. -/
def KeepsTo (R : σ → σ → Prop) (x : Run σ α) : Prop :=
  ∀ memory, Pinboard.KeepsTo R (x.run.run memory)

section Outcomes

variable {x : Run σ α} {memory memory' : Memory} {w w' : σ}

lemma run_bind_ok {f : α → Run σ β} {a : α}
    (h : (x.run.run memory).run w = ((.ok a, memory'), w')) :
    ((x >>= f).run.run memory).run w = ((f a).run.run memory').run w' := by
  simp only [ExceptT.run_bind, StateT.run_bind, h]
  rfl

lemma run_bind_error {f : α → Run σ β} {stop : Stop}
    (h : (x.run.run memory).run w = ((.error stop, memory'), w')) :
    ((x >>= f).run.run memory).run w = ((.error stop, memory'), w') := by
  simp only [ExceptT.run_bind, StateT.run_bind, h]
  rfl

lemma run_tryCatch_ok {f : Stop → Run σ α} {a : α}
    (h : (x.run.run memory).run w = ((.ok a, memory'), w')) :
    ((tryCatch x f).run.run memory).run w = ((.ok a, memory'), w') := by
  simp only [ExceptT.run_tryCatch, StateT.run_bind, h]
  rfl

lemma run_tryCatch_error {f : Stop → Run σ α} {stop : Stop}
    (h : (x.run.run memory).run w = ((.error stop, memory'), w')) :
    ((tryCatch x f).run.run memory).run w = ((f stop).run.run memory').run w' := by
  simp only [ExceptT.run_tryCatch, StateT.run_bind, h]
  rfl

lemma bind_state (x : StateM σ α) (f : α → StateM σ β) (w : σ) :
    (x >>= f) w = f (x w).1 (x w).2 := rfl

lemma bind_memory (x : StateT Memory (StateM σ) α) (f : α → StateT Memory (StateM σ) β)
    (memory : Memory) (w : σ) :
    (x >>= f) memory w = f (x memory w).1.1 (x memory w).1.2 (x memory w).2 := rfl

/-- What comes last takes the state on from where the first step left it, whatever either ends
with. -/
lemma state_tryFinally {y : Run σ β} {ended : Except Stop α}
    (h : (x.run.run memory).run w = ((ended, memory'), w')) :
    (((tryFinally x y).run.run memory).run w).2 = ((y.run.run memory').run w').2 := by
  have hx : x memory w = ((ended, memory'), w') := h
  have hy : ((y.run.run memory').run w') = y memory' w' := rfl
  rw [hy]
  simp only [tryFinally, tryFinally', StateT.run, ExceptT.run, ExceptT.mk, Functor.map,
    ExceptT.map, bind_memory, bind_state, hx]
  cases hlast : y memory' w' with
  | mk outcome w₂ =>
  obtain ⟨last, memory₂⟩ := outcome
  cases ended <;> cases last <;> simp only [hlast] <;> rfl

end Outcomes

section Refl

variable [Std.Refl R]

lemma keepsTo_pure (a : α) : (pure a : Run σ α).KeepsTo R := fun _ w => Std.Refl.refl w

lemma keepsTo_throw (stop : Stop) : (throw stop : Run σ α).KeepsTo R := fun _ w => Std.Refl.refl w

lemma keepsTo_get : (get : Run σ Memory).KeepsTo R := fun _ w => Std.Refl.refl w

lemma keepsTo_modify (f : Memory → Memory) : (modify f : Run σ Unit).KeepsTo R :=
  fun _ w => Std.Refl.refl w

lemma keepsTo_ofOutcome (outcome : Outcome α) : (ofOutcome outcome : Run σ α).KeepsTo R := by
  cases outcome with
  | ok v => exact keepsTo_pure v
  | error e => exact keepsTo_throw _

end Refl

section Trans

variable [IsTrans σ R] {x : Run σ α}

lemma KeepsTo.bind {f : α → Run σ β} (hx : x.KeepsTo R) (hf : ∀ a, (f a).KeepsTo R) :
    (x >>= f).KeepsTo R := by
  intro memory w
  have hfirst := hx memory w
  rcases hrun : (x.run.run memory).run w with ⟨⟨result, memory'⟩, w'⟩
  rw [hrun] at hfirst
  cases result with
  | ok a =>
    rw [run_bind_ok hrun]
    exact IsTrans.trans _ _ _ hfirst (hf a memory' w')
  | error stop =>
    rw [run_bind_error hrun]
    exact hfirst

lemma KeepsTo.tryCatch {f : Stop → Run σ α} (hx : x.KeepsTo R) (hf : ∀ stop, (f stop).KeepsTo R) :
    (tryCatch x f).KeepsTo R := by
  intro memory w
  have hfirst := hx memory w
  rcases hrun : (x.run.run memory).run w with ⟨⟨result, memory'⟩, w'⟩
  rw [hrun] at hfirst
  cases result with
  | ok a =>
    rw [run_tryCatch_ok hrun]
    exact hfirst
  | error stop =>
    rw [run_tryCatch_error hrun]
    exact IsTrans.trans _ _ _ hfirst (hf stop memory' w')

lemma KeepsTo.tryFinally {y : Run σ β} (hx : x.KeepsTo R) (hy : y.KeepsTo R) :
    (tryFinally x y).KeepsTo R := by
  intro memory w
  have hfirst := hx memory w
  rcases hrun : (x.run.run memory).run w with ⟨⟨result, memory'⟩, w'⟩
  rw [hrun] at hfirst
  rw [state_tryFinally hrun]
  exact IsTrans.trans _ _ _ hfirst (hy memory' w')

end Trans

variable [Std.Refl R] [IsTrans σ R]

lemma keepsTo_ofOp (op : Op α) : (ofOp op : Run σ α).KeepsTo R :=
  .bind keepsTo_get fun _ => .bind (keepsTo_ofOutcome _) fun _ => .bind (keepsTo_modify _) fun _ =>
    keepsTo_pure _

lemma KeepsTo.handling {body : Run σ Unit} (h : body.KeepsTo R) (error : Raised) :
    (handling error body).KeepsTo R :=
  .bind keepsTo_get fun _ => .bind (keepsTo_modify _) fun _ => h.tryFinally (keepsTo_modify _)

lemma KeepsTo.rounds {test : Run σ Bool} {body : Run σ Unit} (htest : test.KeepsTo R)
    (hbody : body.KeepsTo R) (n : Nat) : (rounds test body n).KeepsTo R := by
  induction n with
  | zero => exact keepsTo_throw _
  | succ n ih =>
    refine .bind htest fun holds => ?_
    cases holds with
    | true => exact .bind hbody fun _ => ih
    | false => exact keepsTo_pure _

end Run

variable [Std.Refl R] [IsTrans σ R]

lemma keepsTo_lookUp (name : String) : (lookUp name : Run σ Value).KeepsTo R := by
  refine .bind Run.keepsTo_get fun memory => ?_
  split
  · exact Run.keepsTo_pure _
  · exact Run.keepsTo_throw _

lemma keepsTo_errorValue (error : Raised) : (errorValue error : Run σ Value).KeepsTo R := by
  unfold errorValue
  split
  · exact Run.keepsTo_pure _
  · exact .bind (Run.keepsTo_ofOp _) fun _ => Run.keepsTo_pure _

omit [Std.Refl R] [IsTrans σ R] in
/-- A call that is performed for a script takes the state where the call takes it. -/
lemma keepsTo_performed {x : StateM σ α} (h : KeepsTo R x) : (liftM x : Run σ α).KeepsTo R :=
  fun _ w => h w

/-- Every call that is performed keeps to the relation. -/
def Performs (R : σ → σ → Prop) (perform : Perform σ) : Prop :=
  ∀ name args named, KeepsTo R (perform name args named)

variable {perform : Perform σ}

lemma keepsTo_awaitValue (h : Performs R perform) (v : Value) : (awaitValue perform v).KeepsTo R := by
  unfold awaitValue
  split
  · rename_i id name args named
    refine .bind Run.keepsTo_get fun memory => ?_
    split
    · exact Run.keepsTo_throw _
    · refine .bind (Run.keepsTo_modify _) fun _ => .bind (Run.keepsTo_ofOutcome _) fun args => ?_
      refine .bind (Run.keepsTo_ofOutcome _) fun named => ?_
      exact .bind (keepsTo_performed (h name args named)) fun _ => Run.keepsTo_ofOutcome _
  · exact Run.keepsTo_throw _

/-! ## Expressions -/

mutual

theorem keepsTo_eval (h : Performs R perform) : ∀ e : Expr, (eval perform e).KeepsTo R
  | .literal _ => by
    rw [eval]
    exact Run.keepsTo_pure _
  | .name _ id => by
    rw [eval]
    exact keepsTo_lookUp id
  | .attribute _ base _ => by
    rw [eval]
    exact .bind (keepsTo_eval h base) fun _ => Run.keepsTo_ofOutcome _
  | .item base index => by
    rw [eval]
    exact .bind (keepsTo_eval h base) fun _ => .bind (keepsTo_eval h index) fun _ =>
      Run.keepsTo_ofOutcome _
  | .call callee args named => by
    rw [eval]
    refine .bind (keepsTo_eval h callee) fun _ => .bind (keepsTo_evalArguments h args) fun _ => ?_
    refine .bind (keepsTo_evalNamed h named) fun _ => ?_
    split
    · exact Run.keepsTo_ofOp _
    · exact Run.keepsTo_throw _
  | .spread _ => by
    rw [eval]
    exact Run.keepsTo_throw _
  | .await call => by
    rw [eval]
    exact .bind (keepsTo_eval h call) fun v => keepsTo_awaitValue h v
  | .list items => by
    rw [eval]
    exact .bind (keepsTo_evalAll h items) fun _ => Run.keepsTo_pure _
  | .tuple items => by
    rw [eval]
    exact .bind (keepsTo_evalAll h items) fun _ => Run.keepsTo_pure _
  | .mapping entries => by
    rw [eval]
    exact .bind (keepsTo_evalEntries h entries) fun _ => Run.keepsTo_ofOutcome _
  | .negate operand => by
    rw [eval]
    exact .bind (keepsTo_eval h operand) fun _ => Run.keepsTo_ofOp _
  | .binary _ left right => by
    rw [eval]
    exact .bind (keepsTo_eval h left) fun _ => .bind (keepsTo_eval h right) fun _ =>
      Run.keepsTo_ofOp _
  | .equal first rest => by
    rw [eval]
    exact .bind (keepsTo_eval h first) fun v => keepsTo_evalEqual h rest v
  | .function .. => by
    rw [eval]
    exact Run.keepsTo_throw _

theorem keepsTo_evalAll (h : Performs R perform) :
    ∀ items : List Expr, (evalAll perform items).KeepsTo R
  | [] => by
    rw [evalAll]
    exact Run.keepsTo_pure _
  | e :: rest => by
    rw [evalAll]
    exact .bind (keepsTo_eval h e) fun _ => .bind (keepsTo_evalAll h rest) fun _ =>
      Run.keepsTo_pure _

theorem keepsTo_evalArguments (h : Performs R perform) :
    ∀ args : List Expr, (evalArguments perform args).KeepsTo R
  | [] => by
    rw [evalArguments]
    exact Run.keepsTo_pure _
  | e :: rest => by
    have hrest := keepsTo_evalArguments h rest
    unfold evalArguments
    split
    · cases ‹_›
    · rename_i items rest' heq
      cases heq
      exact .bind (keepsTo_eval h items) fun _ => .bind (Run.keepsTo_ofOutcome _) fun _ => 
        .bind hrest fun _ => Run.keepsTo_pure _
    · rename_i heq
      cases heq
      exact .bind (keepsTo_eval h e) fun _ => .bind hrest fun _ => Run.keepsTo_pure _

theorem keepsTo_evalNamed (h : Performs R perform) :
    ∀ named : List (Option String × Expr), (evalNamed perform named).KeepsTo R
  | [] => by
    rw [evalNamed]
    exact Run.keepsTo_pure _
  | (name, e) :: rest => by
    have hrest := fun found : Fields Value => Run.KeepsTo.bind (keepsTo_evalNamed h rest)
      fun later => Run.keepsTo_pure (R := R) (found ++ later)
    rw [evalNamed]
    refine .bind (keepsTo_eval h e) fun v => ?_
    cases name with
    | some name => exact .bind (Run.keepsTo_pure _) hrest
    | none => exact .bind (Run.keepsTo_ofOutcome _) hrest

theorem keepsTo_evalEntries (h : Performs R perform) :
    ∀ entries : List (Expr × Expr), (evalEntries perform entries).KeepsTo R
  | [] => by
    rw [evalEntries]
    exact Run.keepsTo_pure _
  | (key, value) :: rest => by
    rw [evalEntries]
    exact .bind (keepsTo_eval h key) fun _ => .bind (keepsTo_eval h value) fun _ =>
      .bind (keepsTo_evalEntries h rest) fun _ => Run.keepsTo_pure _

theorem keepsTo_evalEqual (h : Performs R perform) :
    ∀ (rest : List Expr) (left : Value), (evalEqual perform rest left).KeepsTo R
  | [], _ => by
    rw [evalEqual]
    exact Run.keepsTo_pure _
  | e :: rest, _ => by
    rw [evalEqual]
    refine .bind (keepsTo_eval h e) fun right => ?_
    split
    · exact keepsTo_evalEqual h rest right
    · exact Run.keepsTo_pure _

end

/-! ## Statements -/

theorem keepsTo_assign (h : Performs R perform) (target : Expr) (v : Value) :
    (assign perform target v).KeepsTo R := by
  fun_induction assign perform target v with
  | case1 => exact Run.keepsTo_modify _
  | case2 base index v ih =>
    refine .bind (keepsTo_eval h base) fun _ => .bind (keepsTo_eval h index) fun _ => ?_
    exact .bind (Run.keepsTo_ofOutcome _) fun changed => ih changed
  | case3 _ base => exact .bind (keepsTo_eval h base) fun _ => Run.keepsTo_throw _
  | case4 => exact Run.keepsTo_pure _

lemma keepsTo_assignAll (h : Performs R perform) (targets : List Expr) (v : Value) :
    (targets.forM fun target => assign perform target v).KeepsTo R := by
  induction targets with
  | nil => exact Run.keepsTo_pure _
  | cons target targets ih => exact .bind (keepsTo_assign h target v) fun _ => ih

mutual

theorem keepsTo_exec (h : Performs R perform) : ∀ s : Stmt, (exec perform s).KeepsTo R
  | .expr value => by
    rw [exec]
    exact .bind (keepsTo_eval h value) fun _ => Run.keepsTo_pure _
  | .assign targets value => by
    rw [exec]
    exact .bind (keepsTo_eval h value) fun v => keepsTo_assignAll h targets v
  | .raise none => by
    rw [exec]
    refine .bind Run.keepsTo_get fun memory => ?_
    split
    · exact Run.keepsTo_throw _
    · exact Run.keepsTo_throw _
  | .raise (some error) => by
    rw [exec]
    exact .bind (keepsTo_eval h error) fun _ => Run.keepsTo_throw _
  | .while_ test body => by
    rw [exec]
    refine .rounds ?_ (keepsTo_execAll h body) roundLimit
    exact .bind (keepsTo_eval h test) fun _ => Run.keepsTo_pure _
  | .try_ body handlers => by
    rw [exec]
    refine .tryCatch (keepsTo_execAll h body) fun stop => ?_
    cases stop with
    | raised error => exact keepsTo_handle h handlers error
    | timeout => exact Run.keepsTo_throw _
  | .pass | .global _ => by
    rw [exec]
    exact Run.keepsTo_pure _
  | .return_ _ | .import_ _ | .nonlocal _ | .define .. | .class_ .. => by
    rw [exec]
    exact Run.keepsTo_throw _

theorem keepsTo_execAll (h : Performs R perform) :
    ∀ body : List Stmt, (execAll perform body).KeepsTo R
  | [] => by
    rw [execAll]
    exact Run.keepsTo_pure _
  | s :: rest => by
    rw [execAll]
    exact .bind (keepsTo_exec h s) fun _ => keepsTo_execAll h rest

theorem keepsTo_handle (h : Performs R perform) :
    ∀ (handlers : List Handler) (error : Raised), (handle perform handlers error).KeepsTo R
  | [], _ => by
    rw [handle]
    exact Run.keepsTo_throw _
  | handler :: rest, error => by
    rw [handle]
    refine .bind (keepsTo_offer h handler error) fun taken => ?_
    cases taken with
    | true => exact Run.keepsTo_pure _
    | false => exact keepsTo_handle h rest error

theorem keepsTo_offer (h : Performs R perform) :
    ∀ (handler : Handler) (error : Raised), (offer perform handler error).KeepsTo R
  | .mk _ type bound body, error => by
    have hbody := keepsTo_execAll h body
    have hafter : ∀ taken : Bool, (do
        if taken then
          Run.handling error do
            match bound with
            | none => execAll perform body
            | some name =>
              Run.bind name (← errorValue error)
              tryFinally (execAll perform body) (Run.unbind name)
        return taken : Run σ Bool).KeepsTo R := by
      intro taken
      cases taken with
      | false => exact Run.keepsTo_pure _
      | true =>
        refine .bind (.handling ?_ error) fun _ => Run.keepsTo_pure _
        cases bound with
        | none => exact hbody
        | some name =>
          refine .bind (keepsTo_errorValue error) fun _ => .bind (Run.keepsTo_modify _) fun _ => ?_
          exact hbody.tryFinally (Run.keepsTo_modify _)
    cases type with
    | none => exact .bind (Run.keepsTo_pure _) hafter
    | some t => exact .bind (keepsTo_eval h t) fun _ => .bind (Run.keepsTo_ofOutcome _) hafter

end

/-! ## Programs -/

lemma keepsTo_result (h : Performs R perform) : (result perform).KeepsTo R := by
  refine .bind Run.keepsTo_get fun memory => ?_
  split
  · exact Run.keepsTo_pure _
  · exact .bind (keepsTo_awaitValue h _) fun _ => Run.keepsTo_ofOutcome _
  · exact Run.keepsTo_ofOutcome _

theorem keepsTo_run (h : Performs R perform) (outputs : List (Value × Value))
    (callables : List String) (program : Program) :
    KeepsTo R (run perform outputs callables program) := by
  let steps : Run σ String := do
    if program.isSound then
      execAll perform program
      result perform
    else Run.fail .malformed "invalid syntax"
  have hsteps : steps.KeepsTo R := by
    simp only [steps]
    split
    · exact .bind (keepsTo_execAll h program) fun _ => keepsTo_result h
    · exact Run.keepsTo_throw _
  exact .bind (hsteps (Memory.initial outputs callables)) fun _ => keepsTo_pure _

namespace Sandbox

/-- Scripts in a sandbox keep to a relation that its calls keep to. -/
theorem keepsTo_run {s : Sandbox σ} (h : ∀ name args named, (s.call name args named).KeepsTo R)
    (source : String) : KeepsTo R (s.run source) := by
  have hperform : Performs R s.perform := by
    intro name args named
    have hdispatch : KeepsTo R (s.dispatch name args named) := by
      unfold dispatch
      split
      · refine .bind (h name args named) fun result => ?_
        cases result <;> exact Pinboard.keepsTo_pure _
      · exact Pinboard.keepsTo_pure _
    refine .bind hdispatch fun result => ?_
    cases result <;> exact Pinboard.keepsTo_pure _
  unfold run
  split
  · exact Pinboard.keepsTo_pure _
  · unfold runProgram
    split
    · exact Pinboard.keepsTo_pure _
    · split
      · exact Pinboard.keepsTo_pure _
      · split
        · exact Pinboard.keepsTo_pure _
        · refine .bind (Script.keepsTo_run hperform _ _ _) fun result => ?_
          cases result <;> exact Pinboard.keepsTo_pure _

end Sandbox

end Pinboard.Script
