import Pinboard.Directive.Callable
import Pinboard.Proofs.Action
import Pinboard.Proofs.Resolution.Bounds

/-!
# Resolution with its guards

A rule and a handler are each run under a guard of their own. What a handler replied is written as
text outside of its guard, and one more guard stands around all passes of a resolution. Here the
steps of a resolution are actions that may fault, with the guards where they stand, and a fault that
reaches the last guard leaves what the completed sweeps have made of the text. Where replies are
written without fault, no fault gets that far, and the outcome is the resolver's.
-/
namespace Pinboard

open Markup

variable {σ : Type}

/-! ## Actions that cannot fault -/

namespace Action

variable {ε ε' α β : Type}

lemma lift_bind (x : StateM σ α) (f : α → StateM σ β) :
    (ExceptT.lift (x >>= f) : ExceptT ε (StateM σ) β) =
      ExceptT.lift x >>= fun a => ExceptT.lift (f a) := rfl

lemma total_bind (x : StateM σ α) (f : α → StateM σ β) :
    total (x >>= f) = total x >>= fun a => total (f a) := rfl

lemma total_injective : Function.Injective (total : StateM σ α → Action σ α) := by
  intro x y h
  refine StateT.ext fun w => ?_
  have hrun : (total x).run.run w = (total y).run.run w := by rw [h]
  obtain ⟨hvalue, hstate⟩ := Prod.mk.inj hrun
  exact Prod.ext (Except.ok.inj hvalue) hstate

-- faults of any kind, not only those of actions
section Bind

variable {x : ExceptT ε (StateM σ) α} {f : α → ExceptT ε (StateM σ) β} {w w' : σ}

lemma run_bind_value {a : α} (h : x.run.run w = (.ok a, w')) :
    (x >>= f).run.run w = (f a).run.run w' := by
  rw [ExceptT.run_bind, StateT.run_bind, h]
  rfl

lemma run_bind_stop {e : ε} (h : x.run.run w = (.error e, w')) :
    (x >>= f).run.run w = (.error e, w') := by
  rw [ExceptT.run_bind, StateT.run_bind, h]
  rfl

end Bind

lemma run_adapt (f : ε → ε') (x : ExceptT ε (StateM σ) α) (w : σ) :
    (ExceptT.adapt f x).run.run w = ((x.run.run w).1.mapError f, (x.run.run w).2) := rfl

/-- What faults under a guard that gives a value has this value. -/
lemma run_tryCatch_pure (x : ExceptT ε (StateM σ) α) (f : ε → α) (w : σ) :
    ∃ a w', (tryCatch x fun e => pure (f e)).run.run w = (.ok a, w') := by
  rw [ExceptT.run_tryCatch, StateT.run_bind]
  cases hrun : x.run.run w with
  | mk result w' =>
  cases result with
  | ok a => exact ⟨a, w', rfl⟩
  | error e => exact ⟨f e, w', rfl⟩

/-- An action under a guard that gives a default. -/
lemma tryCatch_pure (x : Action σ α) (default : α) :
    (tryCatch x fun _ => pure default) = total (orElse x default) := by
  refine ExceptT.ext (StateT.ext fun w => ?_)
  rw [run_total, ExceptT.run_tryCatch, StateT.run_bind]
  cases hrun : x.run.run w with
  | mk result w' =>
  cases result with
  | ok a =>
    rw [run_orElse_ok hrun]
    rfl
  | error fault =>
    rw [run_orElse_error hrun]
    rfl

end Action

/-! ## Replies as they are written -/

namespace Reply

/-- A reply as text with values. Nothing and texts are as they are, and so is a text with values;
any other value has to be written. -/
def written (write : Json → Except Fault String) : Reply → Except Fault Reply
  | .value .null => .ok (.named "" [])
  | .value (.str s) => .ok (.named s [])
  | .value v => (write v).map (.named · [])
  | .named s outputs => .ok (.named s outputs)

/-- The text of a reply with its values. -/
def asNamed (reply : Reply) : Reply := .named reply.text reply.outputs

/-- Nothing, a text, or a text with values. -/
def IsPlain : Reply → Prop
  | .value v => v = .null ∨ ∃ s, v = .str s
  | .named _ _ => True

lemma IsPlain.written_eq {reply : Reply} (h : reply.IsPlain) (write : Json → Except Fault String) :
    reply.written write = .ok reply.asNamed := by
  cases reply with
  | value v => obtain rfl | ⟨s, rfl⟩ := h <;> rfl
  | named s outputs => rfl

/-- Where every value can be displayed, every reply is written. -/
lemma written_display (reply : Reply) :
    reply.written (fun v => .ok v.display) = .ok reply.asNamed := by
  cases reply with
  | value v => cases v <;> rfl
  | named s outputs => rfl

end Reply

/-! ## Rules and handlers -/

namespace Directive

/-- Ask some rules, each under its guard, up to the first that accepts. -/
def asks (text : String) (context : Context) : List (Rule σ) → Action σ Bool
  | [] => pure false
  | rule :: rules => do
    if ← tryCatch (rule.check text context) fun _ => pure false then pure true
    else asks text context rules

def permits (d : Directive σ) (text : String) (context : Context) : Action σ Bool :=
  if d.rules.isEmpty then pure true else asks text context d.rules

/-- Run the handler under its guard, and write what it replied. -/
def answer (write : Json → Except Fault String) (d : Directive σ) (m : Occurrence)
    (context : Context) (reentry : Option (Reentry σ)) : Action σ Reply := do
  match ← tryCatch (some <$> d.handler m context reentry) fun _ => pure none with
  | some reply => Action.ofExcept (reply.written write)
  | none => pure (.named "" [])

/-- The next occurrence to be replaced. -/
def seek (d : Directive σ) (context : Context) (cache : Fields String) (text : List Char) :
    Nat → Nat → Action σ (Option Target)
  | 0, _ => pure none
  | fuel + 1, position =>
    match find? d.spellings (!d.eager) position text with
    | none => pure none
    | some m =>
      match d.known? context cache m with
      | some s => pure (some ⟨m, position, some s⟩)
      | none => do
        if ← d.permits m.text context then pure (some ⟨m, position, none⟩)
        else seek d context cache text fuel m.stop

variable {d : Directive σ} {text : String} {context : Context}

/-- Whatever rules do, asking them does not fault. -/
lemma asks_eq (rules : List (Rule σ)) :
    asks text context rules = Action.total (anyAccepts text context rules) := by
  induction rules with
  | nil => rfl
  | cons rule rules ih =>
    rw [asks, Action.tryCatch_pure, ih, anyAccepts, Action.total_bind]
    refine bind_congr fun accepted => ?_
    cases accepted <;> rfl

lemma permits_eq : d.permits text context = Action.total (d.applies text context) := by
  rw [permits, applies, asks_eq]
  split <;> rfl

lemma seek_eq {cache : Fields String} {chars : List Char} (fuel position : Nat) :
    d.seek context cache chars fuel position =
      Action.total (d.nextTarget context cache chars fuel position) := by
  induction fuel generalizing position with
  | zero => rfl
  | succ fuel ih =>
    rw [seek, nextTarget]
    cases find? d.spellings (!d.eager) position chars with
    | none => rfl
    | some m =>
      cases hknown : d.known? context cache m with
      | some s => simp only [hknown]; rfl
      | none =>
        simp only [hknown]
        rw [permits_eq, Action.total_bind]
        refine bind_congr fun accepted => ?_
        cases accepted with
        | false => exact ih m.stop
        | true => rfl

section Answers

variable {write : Json → Except Fault String} {m : Occurrence} {reentry : Option (Reentry σ)}
  {w w' : σ}

lemma run_answer_ok {reply : Reply}
    (hrun : (d.handler m context reentry).run.run w = (.ok reply, w')) :
    (d.answer write m context reentry).run.run w = (reply.written write, w') := by
  have hguarded : (tryCatch (some <$> d.handler m context reentry) fun _ => pure none).run.run w =
      (.ok (some reply), w') := by
    rw [ExceptT.run_tryCatch, StateT.run_bind, ExceptT.run_map, StateT.run_map, hrun]
    rfl
  rw [answer, Action.run_bind_ok hguarded]
  show (Action.ofExcept (reply.written write)).run.run w' = _
  cases reply.written write <;> rfl

lemma run_answer_error {fault : Fault}
    (hrun : (d.handler m context reentry).run.run w = (.error fault, w')) :
    (d.answer write m context reentry).run.run w = (.ok (.named "" []), w') := by
  have hguarded : (tryCatch (some <$> d.handler m context reentry) fun _ => pure none).run.run w =
      (.ok none, w') := by
    rw [ExceptT.run_tryCatch, StateT.run_bind, ExceptT.run_map, StateT.run_map, hrun]
    rfl
  rw [answer, Action.run_bind_ok hguarded]
  rfl

end Answers

/-- The replies of a handler are written without fault. -/
def Writes (write : Json → Except Fault String) (d : Directive σ) : Prop :=
  ∀ m context reentry, (d.handler m context reentry).Yields fun reply =>
    reply.written write = .ok reply.asNamed

lemma Writes.answer_eq {write : Json → Except Fault String} (h : d.Writes write) (m : Occurrence)
    (context : Context) (reentry : Option (Reentry σ)) : d.answer write m context reentry =
      Action.total (Reply.asNamed <$> d.run m context reentry) := by
  refine ExceptT.ext (StateT.ext fun w => ?_)
  rw [Action.run_total, StateT.run_map, run]
  cases hrun : (d.handler m context reentry).run.run w with
  | mk result w' =>
  cases result with
  | ok reply =>
    have hwritten : reply.written write = .ok reply.asNamed :=
      h m context reentry w reply (by rw [hrun])
    rw [run_answer_ok hrun, Action.run_orElse_ok hrun, hwritten]
    rfl
  | error fault =>
    rw [run_answer_error hrun, Action.run_orElse_error hrun]
    rfl

lemma writes_of_plain (h : ∀ m context reentry, (d.handler m context reentry).Yields Reply.IsPlain)
    (write : Json → Except Fault String) : d.Writes write :=
  fun m context reentry w reply hreply => (h m context reentry w reply hreply).written_eq write

lemma writes_display (d : Directive σ) : d.Writes fun v => .ok v.display :=
  fun _ _ _ _ reply _ => reply.written_display

end Directive

/-! ## Sweeps and passes -/

/-- Replace one target after the other. A fault ends the sweep. -/
def Sweep.attempt (write : Json → Except Fault String) (d : Directive σ)
    (reentry : Option (Reentry σ)) : Nat → Sweep → Action σ Sweep
  | 0, s => pure s
  | allowed + 1, s => do
    match ← d.seek s.context s.cache s.text (s.text.length + 1) s.position with
    | none => pure s
    | some t =>
      match t.known with
      | some result => attempt write d reentry allowed (s.substitute t result)
      | none =>
        let reply ← d.answer write t.occurrence s.context reentry
        attempt write d reentry allowed ((s.learn d t.occurrence reply).substitute t reply.text)

lemma Sweep.attempt_eq {write : Json → Except Fault String} {d : Directive σ} (h : d.Writes write)
    (reentry : Option (Reentry σ)) (allowed : Nat) (s : Sweep) :
    attempt write d reentry allowed s = Action.total (go d reentry allowed s) := by
  induction allowed generalizing s with
  | zero => rfl
  | succ allowed ih =>
    rw [attempt, go, Directive.seek_eq, Action.total_bind]
    refine bind_congr fun found => ?_
    cases found with
    | none => rfl
    | some t =>
      cases hknown : t.known with
      | some result => simp only [hknown, ih]
      | none =>
        simp only [hknown, ih, h.answer_eq]
        rfl

/-- A fault in the middle of a resolution, with what was reached before the sweep it ended. -/
structure Aborted where
  fault : Fault
  reached : Progress

namespace Progress

variable (write : Json → Except Fault String) (limit : Nat) (reentry : Option (Reentry σ))

def attempt (p : Progress) (d : Directive σ) : ExceptT Aborted (StateM σ) Progress :=
  ExceptT.adapt (⟨·, p⟩) do
    let swept ← Sweep.attempt write d reentry (limit - p.count d.name) ⟨p.text, p.context, 0, [], 0⟩
    pure (p.after d swept)

def attemptPass (ds : List (Directive σ)) (p : Progress) : ExceptT Aborted (StateM σ) Progress :=
  ds.foldlM (attempt write limit reentry) { p with changed := false }

def attemptPasses (ds : List (Directive σ)) :
    Nat → Progress → ExceptT Aborted (StateM σ) Progress
  | 0, p => pure p
  | fuel + 1, p => do
    let p ← attemptPass write limit reentry ds p
    if p.changed && hasMarker p.text then attemptPasses ds fuel p else pure p

variable {write}

lemma attempt_eq {d : Directive σ} (h : d.Writes write) (p : Progress) :
    p.attempt write limit reentry d = ExceptT.lift (p.apply limit reentry d) := by
  rw [attempt, Sweep.attempt_eq h]
  rfl

variable {ds : List (Directive σ)} (h : ∀ d ∈ ds, d.Writes write)
include h

lemma attempt_foldlM_eq (p : Progress) : ds.foldlM (attempt write limit reentry) p =
    (ExceptT.lift (ds.foldlM (apply limit reentry) p) : ExceptT Aborted (StateM σ) Progress) := by
  induction ds generalizing p with
  | nil => rfl
  | cons d ds ih =>
    rw [List.foldlM_cons, List.foldlM_cons, attempt_eq limit reentry (h d List.mem_cons_self),
      Action.lift_bind]
    exact bind_congr fun p' => ih (fun d hd => h d (List.mem_cons_of_mem _ hd)) p'

lemma attemptPasses_eq (fuel : Nat) (p : Progress) : attemptPasses write limit reentry ds fuel p =
    ExceptT.lift (passes limit reentry ds fuel p) := by
  induction fuel generalizing p with
  | zero => rfl
  | succ fuel ih =>
    rw [attemptPasses, attemptPass, attempt_foldlM_eq limit reentry h, passes, pass,
      Action.lift_bind]
    refine bind_congr fun p' => ?_
    split
    · exact ih p'
    · rfl

end Progress

/-! ## The bound on the passes -/

/-- A sweep that does not fault replaces no more than it is allowed. -/
lemma Sweep.attempt_yields (write : Json → Except Fault String) (d : Directive σ)
    (reentry : Option (Reentry σ)) (allowed : Nat) (s : Sweep) :
    (attempt write d reentry allowed s).Yields fun s' => s'.replaced ≤ s.replaced + allowed := by
  induction allowed generalizing s with
  | zero => exact Action.yields_pure (Nat.le_refl _)
  | succ allowed ih =>
    rw [attempt]
    refine Action.yields_bind fun found => ?_
    cases found with
    | none => exact Action.yields_pure (Nat.le_add_right _ _)
    | some t =>
      cases hknown : t.known with
      | some result =>
        simp only [hknown]
        intro w s' hs'
        have hle : s'.replaced ≤ s.replaced + 1 + allowed := ih _ w s' hs'
        omega
      | none =>
        simp only [hknown]
        refine Action.yields_bind fun reply w s' hs' => ?_
        have hle : s'.replaced ≤ s.replaced + 1 + allowed := ih _ w s' hs'
        omega

namespace Progress

variable {write : Json → Except Fault String} {limit : Nat} {reentry : Option (Reentry σ)}
  {ds : List (Directive σ)} {p p' : Progress} {w w' : σ}

/-- What some sweeps that do not fault make of a progress. Counts go up to the limit, and one does
where something changes. -/
structure Grows (limit : Nat) (ds : List (Directive σ)) (p p' : Progress) : Prop where
  mono : ∀ name, p.count name ≤ p'.count name
  within : (∀ name, p.count name ≤ limit) → ∀ name, p'.count name ≤ limit
  changed : p'.changed = true → p.changed = true ∨ ∃ d ∈ ds, p.count d.name < p'.count d.name

lemma attempt_grows {d : Directive σ}
    (h : (p.attempt write limit reentry d).run.run w = (.ok p', w')) : Grows limit [d] p p' := by
  rw [attempt, Action.run_adapt] at h
  cases hsweep : (Sweep.attempt write d reentry (limit - p.count d.name)
      ⟨p.text, p.context, 0, [], 0⟩).run.run w with
  | mk result w₁ =>
  cases result with
  | error fault =>
    rw [Action.run_bind_error hsweep] at h
    cases (Prod.mk.inj h).1
  | ok swept =>
    rw [Action.run_bind_ok hsweep] at h
    obtain rfl : p.after d swept = p' := Except.ok.inj (Prod.mk.inj h).1
    have hallowed : swept.replaced ≤ 0 + (limit - p.count d.name) :=
      Sweep.attempt_yields write d reentry _ _ w swept (by rw [hsweep])
    refine ⟨fun name => ?_, fun hp name => ?_, fun hchanged => ?_⟩
    · rw [count_after]
      split_ifs with hname
      · rw [← hname]
        omega
      · exact le_rfl
    · rw [count_after]
      split_ifs with hname
      · have hle := hp d.name
        omega
      · exact hp name
    · rcases Bool.or_eq_true_iff.mp hchanged with hbefore | hreplaced
      · exact .inl hbefore
      · have hpos : swept.replaced ≠ 0 := by simpa using hreplaced
        refine .inr ⟨d, List.mem_singleton_self d, ?_⟩
        rw [count_after, if_pos rfl]
        omega

lemma foldlM_grows (h : (ds.foldlM (attempt write limit reentry) p).run.run w = (.ok p', w')) :
    Grows limit ds p p' := by
  induction ds generalizing p w with
  | nil =>
    obtain ⟨hsame, -⟩ := Prod.mk.inj h
    obtain rfl := Except.ok.inj hsame
    exact ⟨fun _ => le_rfl, fun hp => hp, .inl⟩
  | cons d ds ih =>
    rw [List.foldlM_cons] at h
    cases hfirst : (p.attempt write limit reentry d).run.run w with
    | mk result w₁ =>
    cases result with
    | error aborted =>
      rw [Action.run_bind_stop hfirst] at h
      cases (Prod.mk.inj h).1
    | ok p₁ =>
      rw [Action.run_bind_value hfirst] at h
      have hone := attempt_grows hfirst
      have hrest := ih h
      refine ⟨fun name => (hone.mono name).trans (hrest.mono name),
        fun hp => hrest.within (hone.within hp), fun hchanged => ?_⟩
      rcases hrest.changed hchanged with hmiddle | ⟨d', hd', hlt⟩
      · rcases hone.changed hmiddle with hbefore | ⟨d', hd', hlt⟩
        · exact .inl hbefore
        · obtain rfl := List.mem_singleton.mp hd'
          exact .inr ⟨d', List.mem_cons_self, hlt.trans_le (hrest.mono d'.name)⟩
      · exact .inr ⟨d', List.mem_cons_of_mem _ hd', (hone.mono d'.name).trans_lt hlt⟩

/-- A pass that changes something leaves less to be replaced. -/
lemma Grows.remaining_lt (h : Grows limit ds { p with changed := false } p')
    (hp : ∀ name, p.count name ≤ limit) (hchanged : p'.changed = true) :
    p'.remaining limit ds < p.remaining limit ds := by
  obtain ⟨d, hd, hlt⟩ := (h.changed hchanged).resolve_left Bool.false_ne_true
  refine List.sum_lt_sum _ _ (fun d' _ => ?_) ⟨d, hd, ?_⟩
  · have hmono : p.count d'.name ≤ p'.count d'.name := h.mono d'.name
    omega
  · have hcount : p.count d.name < p'.count d.name := hlt
    have hle : p'.count d.name ≤ limit := h.within hp d.name
    omega

/-- Passes end before any bound above what is left to be replaced. -/
lemma attemptPasses_fuel {fuel fuel' : Nat} (hp : ∀ name, p.count name ≤ limit)
    (hfuel : p.remaining limit ds < fuel) (hfuel' : p.remaining limit ds < fuel') :
    attemptPasses write limit reentry ds fuel p = attemptPasses write limit reentry ds fuel' p := by
  induction fuel generalizing fuel' p with
  | zero => omega
  | succ fuel ih =>
    obtain ⟨fuel', rfl⟩ : ∃ k, fuel' = k + 1 := ⟨fuel' - 1, by omega⟩
    refine ExceptT.ext (StateT.ext fun w => ?_)
    rw [attemptPasses, attemptPasses]
    cases hpass : (attemptPass write limit reentry ds p).run.run w with
    | mk result w₁ =>
    cases result with
    | error aborted => rw [Action.run_bind_stop hpass, Action.run_bind_stop hpass]
    | ok p₁ =>
      -- a pass that is followed by another has used up some of what is left
      rw [Action.run_bind_value hpass, Action.run_bind_value hpass]
      have hgrows : Grows limit ds { p with changed := false } p₁ := foldlM_grows hpass
      split_ifs with hmore
      · have hchanged : p₁.changed = true := (Bool.and_eq_true_iff.mp hmore).1
        have hlt := hgrows.remaining_lt hp hchanged
        have hsame : attemptPasses write limit reentry ds fuel p₁ =
            attemptPasses write limit reentry ds fuel' p₁ :=
          ih (hgrows.within hp) (by omega) (by omega)
        rw [hsame]
      · rfl

end Progress

/-! ## Resolutions -/

namespace Resolver

variable (r : Resolver σ) (write : Json → Except Fault String)

/-- The passes of a resolution, with the resolver's bound on their number. -/
def rounds (reentry : Option (Reentry σ)) (text : String) (context : Context) :
    ExceptT Aborted (StateM σ) Progress :=
  Progress.attemptPasses write (r.limitIn context) reentry r.registry.ordered (r.passBound context)
    ⟨text.toList, context, [], false⟩

/-- The bound on the passes ends none that is not at its end. -/
lemma attemptPasses_of_le (reentry : Option (Reentry σ)) (text : String) (context : Context)
    {bound : Nat} (hbound : r.passBound context ≤ bound) :
    Progress.attemptPasses write (r.limitIn context) reentry r.registry.ordered bound
        ⟨text.toList, context, [], false⟩ = r.rounds write reentry text context := by
  have hleft : Progress.remaining (r.limitIn context) r.registry.ordered
      ⟨text.toList, context, [], false⟩ < r.passBound context := by
    simp [Progress.remaining, Progress.count, Fields.get?, passBound]
  exact Progress.attemptPasses_fuel (fun _ => Nat.zero_le _) (by omega) hleft

/-- Expand a text, with a last guard around the passes. -/
def attempt (reentry : Option (Reentry σ)) (text : String) (context : Context) :
    Action σ (String × Context) := do
  if hasMarker text.toList then
    let p ← ExceptT.adapt Aborted.fault
      (tryCatch (r.rounds write reentry text context) fun aborted => pure aborted.reached)
    pure (String.ofList p.text, p.context)
  else pure (text, context)

/-- Run one directive on an occurrence. No guard stands around this. -/
def attemptOn (reentry : Option (Reentry σ)) (d : Directive σ) (m : Occurrence)
    (context : Context) : Action σ String := do
  if ← d.permits m.text context then
    let reply ← d.answer write m context reentry
    pure reply.text
  else pure ""

/-- The way back that handlers are given, at a given number of levels that remain. -/
def wayBack : Nat → Reentry σ
  | 0 => r.reentry 0
  | levels + 1 =>
    { resolve := fun text context =>
        Prod.fst <$> r.attempt write (some (wayBack levels)) text context
      invoke := fun name m context =>
        match r.registry.get? name with
        | some d => attemptOn write (some (wayBack levels)) d m context
        | none => throw .noItem
      callable := r.registry.callable }

/-- Whatever faults, the resolution gives a text and a context. -/
lemma attempt_run (reentry : Option (Reentry σ)) (text : String) (context : Context) (w : σ) :
    ∃ result w', (r.attempt write reentry text context).run.run w = (.ok result, w') := by
  unfold attempt
  split
  · obtain ⟨p, w', hrun⟩ := Action.run_tryCatch_pure (r.rounds write reentry text context)
      Aborted.reached w
    have hguarded : (ExceptT.adapt Aborted.fault
        (tryCatch (r.rounds write reentry text context)
          fun aborted => pure aborted.reached)).run.run w = (.ok p, w') := by
      rw [Action.run_adapt, hrun]
      rfl
    exact ⟨_, w', Action.run_bind_ok hguarded⟩
  · exact ⟨_, w, rfl⟩

variable {r write}

section Writes

variable (h : ∀ d ∈ r.registry.directives, d.Writes write)
include h

lemma rounds_eq (reentry : Option (Reentry σ)) (text : String) (context : Context) :
    r.rounds write reentry text context = ExceptT.lift (Progress.passes (r.limitIn context) reentry
      r.registry.ordered (r.passBound context) ⟨text.toList, context, [], false⟩) :=
  Progress.attemptPasses_eq _ _ (fun d hd => h d (Registry.mem_ordered.mp hd)) _ _

lemma attempt_eq (reentry : Option (Reentry σ)) (text : String) (context : Context) :
    r.attempt write reentry text context = Action.total (r.resolveIn reentry text context) := by
  rw [attempt, resolveIn, rounds_eq h]
  split <;> rfl

lemma attemptOn_eq {d : Directive σ} (hd : d ∈ r.registry.directives)
    (reentry : Option (Reentry σ)) (m : Occurrence) (context : Context) :
    attemptOn write reentry d m context = Action.total (invokeOn reentry d m context) := by
  rw [attemptOn, invokeOn, Directive.permits_eq, Action.total_bind]
  refine bind_congr fun accepted => ?_
  cases accepted with
  | false => rfl
  | true =>
    simp only [if_true, (h d hd).answer_eq]
    rfl

lemma wayBack_eq (levels : Nat) : r.wayBack write levels = r.reentry levels := by
  induction levels with
  | zero => rfl
  | succ levels ih =>
    rw [wayBack, reentry, ih, Reentry.mk.injEq]
    refine ⟨?_, ?_, rfl⟩
    · funext text context
      rw [attempt_eq h]
      rfl
    · funext name m context
      cases hget : r.registry.get? name with
      | none => rfl
      | some d => exact attemptOn_eq h (List.mem_of_find?_eq_some hget) _ m context

end Writes

end Resolver
end Pinboard
