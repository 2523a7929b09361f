import Pinboard.Directive.Callable
import Pinboard.Proofs.Fields
import Pinboard.Proofs.Resolution.Bounds

/-!
# Levels of reentry

A handler that resolves a text or runs a directive goes one level down. Here the levels stand over
an arbitrary way back, the bottom, so that a resolution whose outcome is the same over every bottom
has not gone down to it. Directives that ask for resolutions at a greater depth only, up to a
greatest, and scripts that call these reach a number of levels that depends on the depths alone.
-/
namespace Pinboard

open Markup

variable {σ : Type}

/-! ## Handlers that do not tell two ways back apart -/

section Transport

variable {re re' : Option (Reentry σ)} {depth : Nat}

/-- In every context at a depth the handler does the same with either way back. -/
def Directive.SameAt (d : Directive σ) (depth : Nat) (re re' : Option (Reentry σ)) : Prop :=
  ∀ (m : Occurrence) (context : Context), context.depth = depth →
    d.handler m context re = d.handler m context re'

namespace Sweep

lemma depth_learn (s : Sweep) (d : Directive σ) (m : Occurrence) (reply : Reply) :
    (s.learn d m reply).context.depth = s.context.depth := by
  simp only [learn]
  split <;> rfl

lemma Loop.transport {d : Directive σ} (hd : d.SameAt depth re re') {allowance : Nat}
    {s s' : Sweep} {w w' : σ} {turns : List Turn} (h : Loop d re allowance s w turns s' w')
    (hdepth : s.context.depth = depth) :
    Loop d re' allowance s w turns s' w' ∧ s'.context.depth = depth := by
  induction h with
  | spent hspent => exact ⟨.spent hspent, hdepth⟩
  | absent hleft hnone => exact ⟨.absent hleft hnone, hdepth⟩
  | refused hleft hfind hknown hrules _ ih =>
    obtain ⟨hloop, hend⟩ := ih hdepth
    exact ⟨.refused hleft hfind hknown hrules hloop, hend⟩
  | known hleft hfind hknown _ ih =>
    obtain ⟨hloop, hend⟩ := ih hdepth
    exact ⟨.known hleft hfind hknown hloop, hend⟩
  | @handled s s' w w₁ w₂ w' m reply turns hleft hfind hknown hrules hrun _ ih =>
    obtain ⟨hloop, hend⟩ := ih ((depth_learn s d m reply).trans hdepth)
    rw [Directive.run, hd m s.context hdepth] at hrun
    exact ⟨.handled hleft hfind hknown hrules hrun hloop, hend⟩

end Sweep

namespace Progress

variable {limit : Nat} {ds : List (Directive σ)} {p p' : Progress} {w w' : σ}

lemma Round.transport (hds : ∀ d ∈ ds, d.SameAt depth re re') {log : List Entry}
    (h : Round limit re ds p w log p' w') (hdepth : p.context.depth = depth) :
    Round limit re' ds p w log p' w' ∧ p'.context.depth = depth := by
  induction h with
  | nil => exact ⟨.nil, hdepth⟩
  | cons first _ ih =>
    obtain ⟨hfirst, hswept⟩ := first.transport (hds _ List.mem_cons_self) hdepth
    obtain ⟨hrest, hend⟩ := ih (fun d hd => hds d (List.mem_cons_of_mem _ hd)) hswept
    exact ⟨.cons hfirst hrest, hend⟩

lemma Rounds.transport (hds : ∀ d ∈ ds, d.SameAt depth re re') {logs : List (List Entry)}
    (h : Rounds limit re ds p w logs p' w') (hdepth : p.context.depth = depth) :
    Rounds limit re' ds p w logs p' w' := by
  induction h with
  | last round hend => exact .last (round.transport hds hdepth).1 hend
  | more round hmore _ ih =>
    obtain ⟨hround, hnext⟩ := round.transport hds hdepth
    exact .more hround hmore (ih hnext)

end Progress

/-- Directives that do not tell two ways back apart at the depth of a resolution leave none of its
outcome to them. -/
theorem Resolver.resolveIn_congr {r : Resolver σ} {context : Context}
    (hr : ∀ d ∈ r.registry.directives, d.SameAt context.depth re re') (text : String) :
    r.resolveIn re text context = r.resolveIn re' text context := by
  have hds : ∀ d ∈ r.registry.ordered, d.SameAt context.depth re re' := fun d hd =>
    hr d (Registry.mem_ordered.mp hd)
  refine StateT.ext fun w => ?_
  obtain ⟨logs, result, w', hcourse⟩ := Course.total r re text context w
  have hcourse' : r.Course re' text context w logs result w' := by
    cases hcourse with
    | unmarked hmarker => exact .unmarked hmarker
    | resolved hmarker rounds => exact .resolved hmarker (rounds.transport hds rfl)
  exact hcourse.resolveIn_eq.trans hcourse'.resolveIn_eq.symm

/-- The same for a direct call. -/
lemma Resolver.invokeOn_congr {d : Directive σ} {context : Context}
    (hd : d.SameAt context.depth re re') (m : Occurrence) :
    invokeOn re d m context = invokeOn re' d m context := by
  simp only [invokeOn, Directive.run, hd m context rfl]

end Transport

/-! ## Levels over a bottom -/

namespace Resolver

variable (r : Resolver σ)

/-- The way back one level above another. -/
def lift (below : Reentry σ) : Reentry σ where
  resolve := fun text context =>
    Action.total (Prod.fst <$> r.resolveIn (some below) text context)
  invoke := fun name m context =>
    match r.registry.get? name with
    | some d => Action.total (invokeOn (some below) d m context)
    | none => throw .noItem
  callable := r.registry.callable

/-- The way back with a number of levels over a bottom. -/
def above (bottom : Reentry σ) : Nat → Reentry σ
  | 0 => { bottom with callable := r.registry.callable }
  | levels + 1 => r.lift (above bottom levels)

/-- The levels over a bottom, for handlers at a depth. Of the resolutions that are no deeper than
the handlers that ask for them, so many are done inside one another; the next is left to another
resolver, which is told the level. -/
def beside (other : Nat → String → Context → Action σ String) (bottom : Reentry σ) :
    Nat → Nat → Nat → Reentry σ
  | _, 0, depth =>
    { r.above bottom 0 with
      resolve := fun text context =>
        if context.depth ≤ depth then other 0 text context else bottom.resolve text context }
  | times, levels + 1, depth =>
    { r.lift (beside other bottom times levels depth) with
      resolve := fun text context =>
        if context.depth ≤ depth then
          match times with
          | 0 => other (levels + 1) text context
          | times + 1 =>
            (r.lift (beside other bottom times levels context.depth)).resolve text context
        else (r.lift (beside other bottom times levels context.depth)).resolve text context }

/-- Nothing that a resolution does depends on what lies so many levels down, though this may leave
any mark on the state. -/
def EndsWithin (levels : Nat) (text : String) (context : Context) (w : σ) : Prop :=
  ∀ bottom bottom' : Reentry σ,
    (r.resolveIn (some (r.above bottom levels)) text context).run w =
      (r.resolveIn (some (r.above bottom' levels)) text context).run w

/-- Within so many levels more than so many resolutions, each no deeper than the handler that asks
for it, are asked for inside one another: what is done depends on who does the next. -/
def Nests (times levels : Nat) (text : String) (context : Context) (w : σ) : Prop :=
  ∃ (bottom : Reentry σ) (other other' : Nat → String → Context → Action σ String),
    (r.resolveIn (some (r.beside other bottom times levels context.depth)) text context).run w ≠
      (r.resolveIn (some (r.beside other' bottom times levels context.depth)) text context).run w

variable {r}

/-- What a resolution one level up gives; it does not fault. -/
lemma run_lift_resolve (below : Reentry σ) (text : String) (context : Context) (w : σ) :
    ((r.lift below).resolve text context).run.run w =
      (.ok ((r.resolveIn (some below) text context).run w).1.1,
        ((r.resolveIn (some below) text context).run w).2) := rfl

lemma reentry_succ (r : Resolver σ) (levels : Nat) :
    r.reentry (levels + 1) = r.lift (r.reentry levels) := rfl

/-- The levels of a resolver stand over a bottom that faults. -/
lemma reentry_eq_above (levels more : Nat) :
    r.reentry (levels + more) = r.above (r.reentry levels) more := by
  induction more with
  | zero => cases levels <;> rfl
  | succ more ih =>
    rw [← Nat.add_assoc, reentry_succ, ih]
    rfl

/-- A resolution that ends within the levels that there are does not depend on their number. -/
lemma EndsWithin.resolve_eq {levels : Nat} {text : String} {context : Context} {w : σ}
    (h : r.EndsWithin levels text context w) (hle : levels ≤ levelLimit) :
    (r.resolve text context).run w =
      (r.resolveIn (some (r.reentry levels)) text context).run w := by
  have hall : r.outermost = r.above (r.reentry (levelLimit - levels)) levels := by
    rw [← reentry_eq_above, Nat.sub_add_cancel hle]
    rfl
  have hthese : r.reentry levels = r.above (r.reentry 0) levels := by
    rw [← reentry_eq_above, Nat.zero_add]
  rw [resolve, hall, hthese]
  exact h _ _

/-- Resolutions that are left to the levels themselves are left to no other. -/
lemma beside_self (bottom : Reentry σ) (times levels depth : Nat) :
    r.beside (fun level => (r.above bottom level).resolve) bottom times levels depth =
      r.above bottom levels := by
  induction levels generalizing times depth with
  | zero => simp only [beside, above, ite_self]
  | succ levels ih => cases times <;> simp only [beside, ih, above, ite_self]

/-- Levels that are enough but for what is left to another resolver are enough where nothing is. -/
lemma endsWithin_of_beside {times levels : Nat} {text : String} {context : Context} {w : σ}
    (hbeside : ∀ (other : Nat → String → Context → Action σ String) (bottom bottom' : Reentry σ),
      r.resolveIn (some (r.beside other bottom times levels context.depth)) text context =
        r.resolveIn (some (r.beside other bottom' times levels context.depth)) text context)
    (hnests : ¬r.Nests times levels text context w) : r.EndsWithin levels text context w := by
  simp only [Nests, not_exists, not_not] at hnests
  intro bottom bottom'
  rw [← beside_self bottom times levels context.depth,
    ← beside_self bottom' times levels context.depth, hbeside _ bottom bottom']
  exact hnests bottom' _ _

end Resolver

/-! ## What handlers ask for -/

/-- The handler asks the way back for nothing but resolutions at depths within its reach. -/
def Directive.AsksWithin (reach : Nat → Nat → Prop) (d : Directive σ) : Prop :=
  ∀ (m : Occurrence) (context : Context) (re re' : Reentry σ),
    (∀ text context', reach context.depth context'.depth →
      re.resolve text context' = re'.resolve text context') →
    d.handler m context (some re) = d.handler m context (some re')

lemma Directive.AsksWithin.mono {reach reach' : Nat → Nat → Prop} {d : Directive σ}
    (h : d.AsksWithin reach) (hle : ∀ a b, reach a b → reach' a b) : d.AsksWithin reach' :=
  fun m context re re' hsame => h m context re re' fun text context' hreach =>
    hsame text context' (hle _ _ hreach)

/-- The handler asks the way back for nothing but to run directives that scripts may call. -/
def Directive.OnlyCalls (d : Directive σ) : Prop :=
  ∀ (m : Occurrence) (context : Context) (re re' : Reentry σ), re.callable = re'.callable →
    (∀ spelling name, re.callable.get? spelling = some name → ∀ m',
      re.invoke name m' context = re'.invoke name m' context) →
    d.handler m context (some re) = d.handler m context (some re')

namespace Registry

variable {r : Registry σ}

/-- What scripts may call is a directive that is no script. -/
lemma exists_callable {spelling name : String} (h : r.callable.get? spelling = some name) :
    ∃ d ∈ r.directives, d.kind ≠ .script ∧ r.get? name = some d := by
  have hclaim := (List.mem_filter.mp (Fields.mem_of_get? h)).1
  obtain ⟨d, hd, hname⟩ := List.mem_flatMap.mp hclaim
  obtain ⟨spelling', -, hpair⟩ := List.mem_map.mp hname
  obtain rfl : d.name = name := congrArg Prod.snd hpair
  obtain ⟨hmem, hkind⟩ := List.mem_filter.mp hd
  exact ⟨d, hmem, by simpa using hkind, get?_name hmem⟩

end Registry

namespace Resolver

variable {r : Resolver σ} {reach : Nat → Nat → Prop} {greatest : Nat}
  {other other' : Nat → String → Context → Action σ String} {bottom bottom' : Reentry σ}

lemma callable_beside (times levels depth : Nat) :
    (r.beside other bottom times levels depth).callable = r.registry.callable := by
  cases levels <;> rfl

lemma invoke_beside {name : String} {d : Directive σ} (h : r.registry.get? name = some d)
    (times levels depth : Nat) (m : Occurrence) (context : Context) :
    (r.beside other bottom times (levels + 1) depth).invoke name m context =
      Action.total (invokeOn (some (r.beside other bottom times levels depth)) d m context) := by
  simp only [beside, lift, h]

/-- A handler does not tell the levels over two bottoms apart if the resolutions that it can ask
for do not. -/
lemma sameAt_beside {d : Directive σ} (hd : d.AsksWithin reach)
    (hreach : ∀ a b, reach a b → a = b ∨ a < b ∧ b ≤ greatest)
    (hother : ∀ a, reach a a → other = other') {times levels depth : Nat}
    (hlevel : ∀ text (context : Context), depth = context.depth → ∀ n, times = n + 1 →
      ∃ l, levels = l + 1 ∧
        r.resolveIn (some (r.beside other bottom n l context.depth)) text context =
          r.resolveIn (some (r.beside other' bottom' n l context.depth)) text context)
    (hdeeper : ∀ text (context : Context), depth < context.depth → context.depth ≤ greatest →
      ∃ l, levels = l + 1 ∧
        r.resolveIn (some (r.beside other bottom times l context.depth)) text context =
          r.resolveIn (some (r.beside other' bottom' times l context.depth)) text context) :
    d.SameAt depth (some (r.beside other bottom times levels depth))
      (some (r.beside other' bottom' times levels depth)) := by
  rintro m context rfl
  refine hd m context _ _ fun text context' hasked => ?_
  rcases hreach _ _ hasked with heq | ⟨hlt, hle⟩
  · have hsame : other = other' := hother context.depth (by rwa [← heq] at hasked)
    have hno : context'.depth ≤ context.depth := heq.ge
    cases times with
    | zero => cases levels <;> simp only [beside, if_pos hno, hsame]
    | succ n =>
      obtain ⟨l, rfl, hresolve⟩ := hlevel text context' heq n rfl
      simp only [beside, if_pos hno, lift, hresolve]
  · obtain ⟨l, rfl, hresolve⟩ := hdeeper text context' hlt hle
    simp only [beside, if_neg (Nat.not_le.mpr hlt), lift, hresolve]

/-- Directives that ask for resolutions at no lesser depth, up to a greatest, and scripts that call
these: every step to a greater depth and every resolution at the same depth takes at most two
levels, and the last step may be a call. -/
theorem resolveIn_beside
    (hr : ∀ d ∈ r.registry.directives, d.AsksWithin reach ∨ d.kind = .script ∧ d.OnlyCalls)
    (hreach : ∀ a b, reach a b → a = b ∨ a < b ∧ b ≤ greatest)
    (hother : ∀ a, reach a a → other = other') (text : String) (context : Context)
    {times levels : Nat} (hlevels : 2 * (greatest - context.depth + times) < levels) :
    r.resolveIn (some (r.beside other bottom times levels context.depth)) text context =
      r.resolveIn (some (r.beside other' bottom' times levels context.depth)) text context := by
  have hask : ∀ d : Directive σ, d.AsksWithin reach →
      ∀ l, 2 * (greatest - context.depth + times) ≤ l →
        d.SameAt context.depth (some (r.beside other bottom times l context.depth))
          (some (r.beside other' bottom' times l context.depth)) := by
    intro d hd l hl
    refine sameAt_beside hd hreach hother (fun text' context' hsame n hn => ?_)
      fun text' context' hlt hle => ?_
    · exact ⟨l - 1, by omega, resolveIn_beside hr hreach hother text' context' (by omega)⟩
    · exact ⟨l - 1, by omega, resolveIn_beside hr hreach hother text' context' (by omega)⟩
  refine resolveIn_congr (fun d hd => ?_) text
  rcases hr d hd with hasks | ⟨-, hcalls⟩
  · exact hask d hasks levels hlevels.le
  -- A call goes one level down, to a directive that is no script.
  · obtain ⟨l, rfl⟩ : ∃ l, levels = l + 1 := ⟨levels - 1, by omega⟩
    intro m context' hdepth
    refine hcalls m context' _ _ ((callable_beside ..).trans (callable_beside ..).symm)
      fun spelling name hname m' => ?_
    rw [callable_beside] at hname
    obtain ⟨d', hmem, hkind, hget⟩ := Registry.exists_callable hname
    have hasks := (hr d' hmem).resolve_right fun hscript => hkind hscript.1
    have hsame := hask d' hasks l (by omega)
    rw [← hdepth] at hsame ⊢
    rw [invoke_beside hget, invoke_beside hget, invokeOn_congr hsame]
termination_by greatest - context.depth + times

end Resolver

end Pinboard
