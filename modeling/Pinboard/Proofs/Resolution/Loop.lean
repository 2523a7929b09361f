import Pinboard.Proofs.Markup.Scanning
import Pinboard.Resolver

/-!
# The loops of a resolution

The functions that resolve a text are given bounds for their recursion. Here the loops are stated
without any: a sweep takes turns until nothing is found or its allowance is spent, and passes repeat
until one replaces nothing or no marker is left. Each run of a loop carries the log of its turns.
The functions compute what the loops end with.
-/
namespace Pinboard

open Markup

variable {σ : Type}

/-- What a turn of a sweep did about the occurrence it found. -/
inductive Turn where
  /-- The rules refused, and the search goes on behind the occurrence. -/
  | refused (m : Occurrence)
  /-- A text that was known took its place. -/
  | known (m : Occurrence) (result : String)
  /-- The handler ran and its reply took the place. -/
  | handled (m : Occurrence) (reply : Reply)

namespace Turn

def replaces : Turn → Bool
  | .refused _ => false
  | .known _ _ => true
  | .handled _ _ => true

def runs : Turn → Bool
  | .handled _ _ => true
  | _ => false

end Turn

namespace Sweep

/-- A run of the loop that sweeps a directive over a text, from a sweep and a state to the ones at
its end. -/
inductive Loop (d : Directive σ) (reentry : Option (Reentry σ)) (allowance : Nat) :
    Sweep → σ → List Turn → Sweep → σ → Prop
  | spent {s : Sweep} {w : σ} (hspent : allowance ≤ s.replaced) :
      Loop d reentry allowance s w [] s w
  | absent {s : Sweep} {w : σ} (hleft : s.replaced < allowance)
      (hnone : find? d.spellings (!d.eager) s.position s.text = none) :
      Loop d reentry allowance s w [] s w
  | refused {s s' : Sweep} {w w₁ w' : σ} {m : Occurrence} {turns : List Turn}
      (hleft : s.replaced < allowance)
      (hfind : find? d.spellings (!d.eager) s.position s.text = some m)
      (hknown : d.known? s.context s.cache m = none)
      (hrules : (d.applies m.text s.context).run w = (false, w₁))
      (rest : Loop d reentry allowance { s with position := m.stop } w₁ turns s' w') :
      Loop d reentry allowance s w (.refused m :: turns) s' w'
  | known {s s' : Sweep} {w w' : σ} {m : Occurrence} {result : String} {turns : List Turn}
      (hleft : s.replaced < allowance)
      (hfind : find? d.spellings (!d.eager) s.position s.text = some m)
      (hknown : d.known? s.context s.cache m = some result)
      (rest : Loop d reentry allowance (s.substitute ⟨m, s.position, some result⟩ result) w
        turns s' w') :
      Loop d reentry allowance s w (.known m result :: turns) s' w'
  | handled {s s' : Sweep} {w w₁ w₂ w' : σ} {m : Occurrence} {reply : Reply} {turns : List Turn}
      (hleft : s.replaced < allowance)
      (hfind : find? d.spellings (!d.eager) s.position s.text = some m)
      (hknown : d.known? s.context s.cache m = none)
      (hrules : (d.applies m.text s.context).run w = (true, w₁))
      (hrun : (d.run m s.context reentry).run w₁ = (reply, w₂))
      (rest : Loop d reentry allowance
        ((s.learn d m reply).substitute ⟨m, s.position, none⟩ reply.text) w₂ turns s' w') :
      Loop d reentry allowance s w (.handled m reply :: turns) s' w'

end Sweep

/-- A turn with the name of the directive that took it. -/
abbrev Entry := String × Turn

namespace Progress

/-- The progress after a directive's sweep. -/
def after (p : Progress) (d : Directive σ) (swept : Sweep) : Progress where
  text := swept.text
  context := swept.context
  counts := p.counts.set d.name (p.count d.name + swept.replaced)
  changed := p.changed || swept.replaced != 0

/-- A sweep of each of some directives in turn. -/
inductive Round (limit : Nat) (reentry : Option (Reentry σ)) :
    List (Directive σ) → Progress → σ → List Entry → Progress → σ → Prop
  | nil {p : Progress} {w : σ} : Round limit reentry [] p w [] p w
  | cons {d : Directive σ} {ds : List (Directive σ)} {p p' : Progress} {w w₁ w' : σ} {s : Sweep}
      {turns : List Turn} {log : List Entry}
      (first : Sweep.Loop d reentry (limit - p.count d.name) ⟨p.text, p.context, 0, [], 0⟩ w
        turns s w₁)
      (rest : Round limit reentry ds (p.after d s) w₁ log p' w') :
      Round limit reentry (d :: ds) p w (turns.map (d.name, ·) ++ log) p' w'

/-- Rounds until one replaces nothing or leaves no marker, with the log of each. -/
inductive Rounds (limit : Nat) (reentry : Option (Reentry σ)) (ds : List (Directive σ)) :
    Progress → σ → List (List Entry) → Progress → σ → Prop
  | last {p p' : Progress} {w w' : σ} {log : List Entry}
      (round : Round limit reentry ds { p with changed := false } w log p' w')
      (hend : (p'.changed && hasMarker p'.text) = false) :
      Rounds limit reentry ds p w [log] p' w'
  | more {p p₁ p' : Progress} {w w₁ w' : σ} {log : List Entry} {logs : List (List Entry)}
      (round : Round limit reentry ds { p with changed := false } w log p₁ w₁)
      (hmore : (p₁.changed && hasMarker p₁.text) = true)
      (rest : Rounds limit reentry ds p₁ w₁ logs p' w') :
      Rounds limit reentry ds p w (log :: logs) p' w'

end Progress

/-- A run of a whole resolution: the logs of its passes, and text, context and state at the end. -/
inductive Resolver.Course (r : Resolver σ) (reentry : Option (Reentry σ)) (text : String)
    (context : Context) (w : σ) : List (List Entry) → String × Context → σ → Prop
  | unmarked (hmarker : hasMarker text.toList = false) :
      Course r reentry text context w [] (text, context) w
  | resolved {p : Progress} {w' : σ} {logs : List (List Entry)}
      (hmarker : hasMarker text.toList = true)
      (rounds : Progress.Rounds (r.limitIn context) reentry r.registry.ordered
        ⟨text.toList, context, [], false⟩ w logs p w') :
      Course r reentry text context w logs (String.ofList p.text, p.context) w'

/-! ## What the functions compute -/

namespace Directive

variable {d : Directive σ} {context : Context} {cache : Fields String} {text : List Char}

lemma nextTarget_absent {fuel position : Nat}
    (hnone : find? d.spellings (!d.eager) position text = none) :
    d.nextTarget context cache text fuel position = pure none := by
  cases fuel with
  | zero => rfl
  | succ fuel => simp only [nextTarget, hnone]

/-- Fuel that reaches beyond the end of the text makes no difference. -/
lemma nextTarget_fuel {fuel fuel' position : Nat} (h : text.length < position + fuel)
    (h' : text.length < position + fuel') :
    d.nextTarget context cache text fuel position =
      d.nextTarget context cache text fuel' position := by
  induction fuel generalizing fuel' position with
  | zero =>
    have hnone : find? d.spellings (!d.eager) position text = none := by
      rw [Option.eq_none_iff_forall_ne_some]
      intro m hm
      have hbounds := find?_bounds hm
      omega
    rw [nextTarget_absent hnone, nextTarget_absent hnone]
  | succ fuel ih =>
    cases hfind : find? d.spellings (!d.eager) position text with
    | none => rw [nextTarget_absent hfind, nextTarget_absent hfind]
    | some m =>
      have hbounds := find?_bounds hfind
      obtain ⟨fuel', rfl⟩ : ∃ k, fuel' = k + 1 := ⟨fuel' - 1, by omega⟩
      simp only [nextTarget, hfind]
      rw [ih (by omega) (show text.length < m.stop + fuel' by omega)]

section Turns

variable {fuel position : Nat} {w w₁ : σ} {m : Occurrence}
  (hfind : find? d.spellings (!d.eager) position text = some m)
include hfind

lemma nextTarget_refused (hknown : d.known? context cache m = none)
    (hrules : (d.applies m.text context).run w = (false, w₁)) :
    (d.nextTarget context cache text (fuel + 1) position).run w =
      (d.nextTarget context cache text fuel m.stop).run w₁ := by
  simp only [nextTarget, hfind, hknown, StateT.run_bind, hrules]
  rfl

lemma nextTarget_known {result : String} (hknown : d.known? context cache m = some result) :
    (d.nextTarget context cache text (fuel + 1) position).run w =
      (some ⟨m, position, some result⟩, w) := by
  simp only [nextTarget, hfind, hknown]
  rfl

lemma nextTarget_accepted (hknown : d.known? context cache m = none)
    (hrules : (d.applies m.text context).run w = (true, w₁)) :
    (d.nextTarget context cache text (fuel + 1) position).run w =
      (some ⟨m, position, none⟩, w₁) := by
  simp only [nextTarget, hfind, hknown, StateT.run_bind, hrules]
  rfl

end Turns

end Directive

namespace Sweep

variable {d : Directive σ} {reentry : Option (Reentry σ)} {allowance : Nat}

section Turns

variable {allowed : Nat} {s : Sweep} {w w₁ : σ}

lemma go_absent
    (hnext : (d.nextTarget s.context s.cache s.text (s.text.length + 1) s.position).run w =
      (none, w₁)) : (go d reentry (allowed + 1) s).run w = (s, w₁) := by
  simp only [go, StateT.run_bind, hnext]
  rfl

/-- What follows on the choice of a target. -/
lemma go_target {t : Directive.Target}
    (hnext : (d.nextTarget s.context s.cache s.text (s.text.length + 1) s.position).run w =
      (some t, w₁)) :
    (go d reentry (allowed + 1) s).run w =
      (match t.known with
      | some result => go d reentry allowed (s.substitute t result)
      | none => do
        let reply ← d.run t.occurrence s.context reentry
        go d reentry allowed ((s.learn d t.occurrence reply).substitute t reply.text)).run w₁ := by
  simp only [go, StateT.run_bind, hnext]
  rfl

end Turns

/-- The function that sweeps a directive over a text ends as the loop does, but for the position of
a last search that found nothing. -/
theorem Loop.go_eq {s s' : Sweep} {w w' : σ} {turns : List Turn}
    (h : Loop d reentry allowance s w turns s' w') {allowed : Nat}
    (hallowed : s.replaced + allowed = allowance) :
    ∃ position, (go d reentry allowed s).run w = ({ s' with position := position }, w') := by
  induction h generalizing allowed with
  | @spent s w hspent =>
    obtain rfl : allowed = 0 := by omega
    exact ⟨s.position, rfl⟩
  | @absent s w hleft hnone =>
    obtain ⟨allowed, rfl⟩ : ∃ k, allowed = k + 1 := ⟨allowed - 1, by omega⟩
    exact ⟨s.position, go_absent (by rw [Directive.nextTarget_absent hnone]; rfl)⟩
  | @refused s s' w w₁ w' m turns hleft hfind hknown hrules rest ih =>
    obtain ⟨allowed, rfl⟩ : ∃ k, allowed = k + 1 := ⟨allowed - 1, by omega⟩
    have hbounds := find?_bounds hfind
    have hnext : (d.nextTarget s.context s.cache s.text (s.text.length + 1) s.position).run w =
        (d.nextTarget s.context s.cache s.text (s.text.length + 1) m.stop).run w₁ := by
      rw [Directive.nextTarget_refused hfind hknown hrules,
        Directive.nextTarget_fuel (by omega)
          (show s.text.length < m.stop + (s.text.length + 1) by omega)]
    obtain ⟨position, hgo⟩ := ih hallowed
    cases hfound : (d.nextTarget s.context s.cache s.text (s.text.length + 1) m.stop).run w₁ with
    | mk found w₂ => cases found with
    | none =>
      obtain ⟨hsame, rfl⟩ := Prod.mk.inj ((go_absent hfound).symm.trans hgo)
      have hend : s = { s' with position := s.position } :=
        congrArg (fun x : Sweep => { x with position := s.position }) hsame
      exact ⟨s.position, (go_absent (hnext.trans hfound)).trans (congrArg (·, w₂) hend)⟩
    | some t =>
      rw [go_target hfound] at hgo
      exact ⟨position, (go_target (hnext.trans hfound)).trans hgo⟩
  | @known s s' w w' m result turns hleft hfind hknown rest ih =>
    obtain ⟨allowed, rfl⟩ : ∃ k, allowed = k + 1 := ⟨allowed - 1, by omega⟩
    obtain ⟨position, hgo⟩ := ih (show s.replaced + 1 + allowed = _ by omega)
    exact ⟨position, (go_target (Directive.nextTarget_known hfind hknown)).trans hgo⟩
  | @handled s s' w w₁ w₂ w' m reply turns hleft hfind hknown hrules hrun rest ih =>
    obtain ⟨allowed, rfl⟩ : ∃ k, allowed = k + 1 := ⟨allowed - 1, by omega⟩
    obtain ⟨position, hgo⟩ := ih (show s.replaced + 1 + allowed = _ by omega)
    refine ⟨position, (go_target (Directive.nextTarget_accepted hfind hknown hrules)).trans ?_⟩
    simp only [StateT.run_bind, hrun]
    exact hgo

/-- A sweep ends: each turn uses up some of its allowance or of the text behind its position. -/
theorem Loop.total (d : Directive σ) (reentry : Option (Reentry σ)) (allowance : Nat) (s : Sweep)
    (w : σ) :
    ∃ turns s' w', Loop d reentry allowance s w turns s' w' := by
  by_cases hleft : s.replaced < allowance
  · cases hfind : find? d.spellings (!d.eager) s.position s.text with
    | none => exact ⟨[], s, w, .absent hleft hfind⟩
    | some m =>
      have hbounds := find?_bounds hfind
      cases hknown : d.known? s.context s.cache m with
      | some result =>
        obtain ⟨turns, s', w', hloop⟩ :=
          Loop.total d reentry allowance (s.substitute ⟨m, s.position, some result⟩ result) w
        exact ⟨_, s', w', .known hleft hfind hknown hloop⟩
      | none =>
        cases hrules : (d.applies m.text s.context).run w with
        | mk accepted w₁ =>
        cases accepted with
        | false =>
          obtain ⟨turns, s', w', hloop⟩ :=
            Loop.total d reentry allowance { s with position := m.stop } w₁
          exact ⟨_, s', w', .refused hleft hfind hknown hrules hloop⟩
        | true =>
          cases hrun : (d.run m s.context reentry).run w₁ with
          | mk reply w₂ =>
          obtain ⟨turns, s', w', hloop⟩ := Loop.total d reentry allowance
            ((s.learn d m reply).substitute ⟨m, s.position, none⟩ reply.text) w₂
          exact ⟨_, s', w', .handled hleft hfind hknown hrules hrun hloop⟩
  · exact ⟨[], s, w, .spent (by omega)⟩
termination_by (allowance - s.replaced, s.text.length - s.position)
decreasing_by
  · exact Prod.Lex.right _ (show s.text.length - m.stop < s.text.length - s.position by omega)
  · exact Prod.Lex.left _ _ (show allowance - (s.replaced + 1) < allowance - s.replaced by omega)
  · exact Prod.Lex.left _ _ (show allowance - (s.replaced + 1) < allowance - s.replaced by omega)

/-- A sweep over an occurrence that is the whole text runs the handler once and leaves nothing but
the reply, if it finds nothing in this or may replace no more. -/
lemma Loop.of_whole {text : List Char} {context : Context} {m : Occurrence}
    (hfind : find? d.spellings (!d.eager) 0 text = some m) (hstart : m.start = 0)
    (hstop : m.stop = text.length) (hunknown : d.known? context [] m = none) {w w₁ w' : σ}
    (hrules : (d.applies m.text context).run w = (true, w₁)) {reply : Reply}
    (hrun : (d.run m context reentry).run w₁ = (reply, w')) (hallowance : 0 < allowance)
    (hdone : 1 < allowance → find? d.spellings (!d.eager) 0 reply.text.toList = none) :
    ∃ s, Loop d reentry allowance ⟨text, context, 0, [], 0⟩ w [.handled m reply] s w' ∧
      s.text = reply.text.toList ∧ (reply.outputs = [] → s.context = context) := by
  have hsplice : splice text m reply.text = reply.text.toList := by
    simp [splice, hstart, hstop]
  refine ⟨((⟨text, context, 0, [], 0⟩ : Sweep).learn d m reply).substitute ⟨m, 0, none⟩ reply.text,
    .handled hallowance hfind hunknown hrules hrun ?_, hsplice, fun houtputs => ?_⟩
  · by_cases hleft : 1 < allowance
    · refine .absent hleft ?_
      show find? d.spellings (!d.eager) 0 (splice text m reply.text) = none
      rw [hsplice]
      exact hdone hleft
    · exact .spent (by simpa [substitute, learn] using hleft)
  · simp [substitute, learn, houtputs]

/-- A sweep leaves no choice. -/
theorem Loop.unique {s s₁ s₂ : Sweep} {w w₁ w₂ : σ} {turns₁ turns₂ : List Turn}
    (h : Loop d reentry allowance s w turns₁ s₁ w₁)
    (h' : Loop d reentry allowance s w turns₂ s₂ w₂) : turns₁ = turns₂ ∧ s₁ = s₂ ∧ w₁ = w₂ := by
  induction h generalizing turns₂ s₂ w₂ with
  | spent hspent => cases h' <;> grind
  | absent hleft hnone => cases h' <;> grind
  | refused hleft hfind hknown hrules rest ih => cases h' <;> grind
  | known hleft hfind hknown rest ih => cases h' <;> grind
  | handled hleft hfind hknown hrules hrun rest ih => cases h' <;> grind

end Sweep

namespace Progress

variable {limit : Nat} {reentry : Option (Reentry σ)} {ds : List (Directive σ)}
  {p p' : Progress} {w w' : σ}

lemma apply_eq {d : Directive σ} {s : Sweep} {turns : List Turn}
    (h : Sweep.Loop d reentry (limit - p.count d.name) ⟨p.text, p.context, 0, [], 0⟩ w turns s w') :
    (p.apply limit reentry d).run w = (p.after d s, w') := by
  obtain ⟨position, hgo⟩ := h.go_eq (Nat.zero_add _)
  simp only [apply, StateT.run_bind, hgo]
  rfl

theorem Round.foldlM_eq {log : List Entry} (h : Round limit reentry ds p w log p' w') :
    (ds.foldlM (Progress.apply limit reentry) p).run w = (p', w') := by
  induction h with
  | nil => rfl
  | cons first rest ih =>
    simp only [List.foldlM_cons, StateT.run_bind, apply_eq first]
    exact ih

/-- A sweep of each of some directives and then of each of some others. -/
lemma Round.append {ds' : List (Directive σ)} {p₁ : Progress} {w₁ : σ} {log log' : List Entry}
    (h : Round limit reentry ds p w log p₁ w₁) (h' : Round limit reentry ds' p₁ w₁ log' p' w') :
    Round limit reentry (ds ++ ds') p w (log ++ log') p' w' := by
  induction h with
  | nil => exact h'
  | cons first _ ih =>
    rw [List.append_assoc]
    exact .cons first (ih h')

theorem Round.total (limit : Nat) (reentry : Option (Reentry σ)) (ds : List (Directive σ))
    (p : Progress) (w : σ) : ∃ log p' w', Round limit reentry ds p w log p' w' := by
  induction ds generalizing p w with
  | nil => exact ⟨[], p, w, .nil⟩
  | cons d ds ih =>
    obtain ⟨turns, s, w₁, hloop⟩ := Sweep.Loop.total d reentry (limit - p.count d.name)
      ⟨p.text, p.context, 0, [], 0⟩ w
    obtain ⟨log, p', w', hround⟩ := ih (p.after d s) w₁
    exact ⟨_, p', w', .cons hloop hround⟩

lemma Round.unique {p₁ p₂ : Progress} {w₁ w₂ : σ} {log₁ log₂ : List Entry}
    (h : Round limit reentry ds p w log₁ p₁ w₁) (h' : Round limit reentry ds p w log₂ p₂ w₂) :
    log₁ = log₂ ∧ p₁ = p₂ ∧ w₁ = w₂ := by
  induction h generalizing log₂ p₂ w₂ with
  | nil =>
    cases h'
    exact ⟨rfl, rfl, rfl⟩
  | cons first rest ih =>
    cases h' with
    | cons first' rest' =>
      obtain ⟨rfl, rfl, rfl⟩ := first.unique first'
      obtain ⟨rfl, rfl, rfl⟩ := ih rest'
      exact ⟨rfl, rfl, rfl⟩

lemma Rounds.unique {p₁ p₂ : Progress} {w₁ w₂ : σ} {logs₁ logs₂ : List (List Entry)}
    (h : Rounds limit reentry ds p w logs₁ p₁ w₁) (h' : Rounds limit reentry ds p w logs₂ p₂ w₂) :
    logs₁ = logs₂ ∧ p₁ = p₂ ∧ w₁ = w₂ := by
  induction h generalizing logs₂ p₂ w₂ with
  | last round hend =>
    cases h' with
    | last round' _ =>
      obtain ⟨rfl, rfl, rfl⟩ := round.unique round'
      exact ⟨rfl, rfl, rfl⟩
    | more round' hmore' _ =>
      obtain ⟨-, rfl, -⟩ := round.unique round'
      simp [hend] at hmore'
  | more round hmore _ ih =>
    cases h' with
    | last round' hend' =>
      obtain ⟨-, rfl, -⟩ := round.unique round'
      simp [hmore] at hend'
    | more round' _ rest' =>
      obtain ⟨rfl, rfl, rfl⟩ := round.unique round'
      obtain ⟨rfl, rfl, rfl⟩ := ih rest'
      exact ⟨rfl, rfl, rfl⟩

lemma passes_succ {fuel : Nat} {log : List Entry}
    (h : Round limit reentry ds { p with changed := false } w log p' w') :
    (passes limit reentry ds (fuel + 1) p).run w =
      (if p'.changed && hasMarker p'.text then passes limit reentry ds fuel p'
        else pure p').run w' := by
  simp only [passes, pass, StateT.run_bind, h.foldlM_eq]
  rfl

/-- The function that repeats passes ends as the loop does. -/
theorem Rounds.passes_eq {logs : List (List Entry)} (h : Rounds limit reentry ds p w logs p' w')
    {fuel : Nat} (hfuel : logs.length ≤ fuel) :
    (passes limit reentry ds fuel p).run w = (p', w') := by
  induction h generalizing fuel with
  | @last p p' w w' log round hend =>
    obtain ⟨fuel, rfl⟩ : ∃ k, fuel = k + 1 := ⟨fuel - 1, by simp at hfuel; omega⟩
    calc (passes limit reentry ds (fuel + 1) p).run w
        = (if p'.changed && hasMarker p'.text then passes limit reentry ds fuel p'
            else pure p').run w' := passes_succ round
      _ = (p', w') := by rw [hend]; rfl
  | @more p p₁ p' w w₁ w' log logs round hmore rest ih =>
    obtain ⟨fuel, rfl⟩ : ∃ k, fuel = k + 1 := ⟨fuel - 1, by simp at hfuel; omega⟩
    calc (passes limit reentry ds (fuel + 1) p).run w
        = (if p₁.changed && hasMarker p₁.text then passes limit reentry ds fuel p₁
            else pure p₁).run w₁ := passes_succ round
      _ = (passes limit reentry ds fuel p₁).run w₁ := by rw [hmore]; rfl
      _ = (p', w') := ih (by simpa using hfuel)

end Progress

lemma Resolver.Course.unique {r : Resolver σ} {reentry : Option (Reentry σ)} {text : String}
    {context : Context} {w w₁ w₂ : σ} {logs₁ logs₂ : List (List Entry)}
    {result₁ result₂ : String × Context} (h : r.Course reentry text context w logs₁ result₁ w₁)
    (h' : r.Course reentry text context w logs₂ result₂ w₂) :
    logs₁ = logs₂ ∧ result₁ = result₂ ∧ w₁ = w₂ := by
  cases h with
  | unmarked hmarker =>
    cases h' with
    | unmarked _ => exact ⟨rfl, rfl, rfl⟩
    | resolved hmarker' _ => simp [hmarker] at hmarker'
  | resolved hmarker rounds =>
    cases h' with
    | unmarked hmarker' => simp [hmarker] at hmarker'
    | resolved _ rounds' =>
      obtain ⟨rfl, rfl, rfl⟩ := rounds.unique rounds'
      exact ⟨rfl, rfl, rfl⟩

end Pinboard
