import Pinboard.Proofs.Registry
import Pinboard.Proofs.Resolution.Loop

/-!
# How much work a resolution does

The number of replacements that a directive is allowed is shared by all passes of a resolution, and
each run of a handler is followed by a replacement. A pass that is followed by another has replaced
something, so the passes are bounded by the replacements.
-/
namespace Pinboard

open Markup

variable {σ : Type}

/-- The replacements that a directive has made, by a log. -/
def replacements (name : String) (log : List Entry) : Nat :=
  log.countP fun e => e.1 == name && e.2.replaces

/-- How often a directive's handler has run, by a log. -/
def handlings (name : String) (log : List Entry) : Nat :=
  log.countP fun e => e.1 == name && e.2.runs

/-- The replacements that all directives have made. -/
def totalReplacements (log : List Entry) : Nat := log.countP fun e => e.2.replaces

lemma handlings_le (name : String) (log : List Entry) :
    handlings name log ≤ replacements name log := by
  refine List.countP_mono_left fun e _ he => ?_
  obtain ⟨n, turn⟩ := e
  cases turn <;> simp_all [Turn.runs, Turn.replaces]

@[simp] lemma replacements_append (name : String) (log log' : List Entry) :
    replacements name (log ++ log') = replacements name log + replacements name log' :=
  List.countP_append

@[simp] lemma totalReplacements_append (log log' : List Entry) :
    totalReplacements (log ++ log') = totalReplacements log + totalReplacements log' :=
  List.countP_append

lemma replacements_map (name other : String) (turns : List Turn) :
    replacements name (turns.map (other, ·)) =
      if other = name then turns.countP Turn.replaces else 0 := by
  simp only [replacements, List.countP_map]
  split
  · rename_i h
    subst h
    exact List.countP_congr fun turn _ => by simp
  · rename_i h
    simp [List.countP_eq_zero, h]

lemma totalReplacements_map (name : String) (turns : List Turn) :
    totalReplacements (turns.map (name, ·)) = turns.countP Turn.replaces := by
  rw [totalReplacements, List.countP_map]
  rfl

/-- All replacements are some directive's. -/
lemma totalReplacements_le {names : List String} {log : List Entry}
    (h : ∀ e ∈ log, e.1 ∈ names) :
    totalReplacements log ≤ (names.map (replacements · log)).sum := by
  induction log with
  | nil => simp [totalReplacements]
  | cons e log ih =>
    have htail := ih fun x hx => h x (List.mem_cons_of_mem _ hx)
    have hsplit : (names.map (replacements · (e :: log))).sum =
        (names.map (replacements · [e])).sum + (names.map (replacements · log)).sum := by
      rw [← List.sum_map_add]
      congr 1
      exact List.map_congr_left fun name _ => replacements_append name [e] log
    have hhead : totalReplacements [e] ≤ (names.map (replacements · [e])).sum := by
      have hsame : totalReplacements [e] = replacements e.1 [e] := by
        simp [totalReplacements, replacements]
      rw [hsame]
      exact List.single_le_sum (fun _ _ => Nat.zero_le _) _
        (List.mem_map_of_mem (h e List.mem_cons_self))
    have happend := totalReplacements_append [e] log
    simp only [List.singleton_append] at happend
    omega

namespace Sweep

variable {d : Directive σ} {reentry : Option (Reentry σ)} {allowance : Nat} {s s' : Sweep}
  {w w' : σ} {turns : List Turn}

lemma Loop.replaced_eq (h : Loop d reentry allowance s w turns s' w') :
    s'.replaced = s.replaced + turns.countP Turn.replaces := by
  induction h with
  | spent | absent => simp
  | refused _ _ _ _ _ ih => simpa [Turn.replaces] using ih
  | @known s s' w w' m result turns _ _ _ _ ih
  | @handled s s' w w₁ w₂ w' m reply turns _ _ _ _ _ _ ih =>
    have hstep : s'.replaced = s.replaced + 1 + turns.countP Turn.replaces := ih
    rw [List.countP_cons_of_pos rfl]
    omega

lemma Loop.replaced_le (h : Loop d reentry allowance s w turns s' w')
    (hs : s.replaced ≤ allowance) : s'.replaced ≤ allowance := by
  induction h with
  | spent | absent => exact hs
  | refused _ _ _ _ _ ih => exact ih hs
  | known hleft _ _ _ ih | handled hleft _ _ _ _ _ ih => exact ih hleft

end Sweep

namespace Progress

variable {limit : Nat} {reentry : Option (Reentry σ)} {ds : List (Directive σ)}
  {p p' : Progress} {w w' : σ}

lemma count_after (p : Progress) (d : Directive σ) (s : Sweep) (name : String) :
    (p.after d s).count name =
      if d.name = name then p.count d.name + s.replaced else p.count name := by
  simp only [count, after, Fields.get?_set]
  split <;> rfl

/-- A pass counts the replacements that its log shows. -/
lemma Round.count_eq {log : List Entry} (h : Round limit reentry ds p w log p' w')
    (name : String) : p'.count name = p.count name + replacements name log := by
  induction h with
  | nil => simp [replacements]
  | @cons d ds p p' w w₁ w' s turns log first rest ih =>
    have hreplaced := first.replaced_eq
    rw [ih, count_after, replacements_append, replacements_map]
    split
    · rename_i h
      subst h
      simp only at hreplaced
      omega
    · omega

lemma Round.count_le {log : List Entry} (h : Round limit reentry ds p w log p' w') {name : String}
    (hp : p.count name ≤ limit) : p'.count name ≤ limit := by
  induction h with
  | nil => exact hp
  | @cons d ds p p' w w₁ w' s turns log first rest ih =>
    have hreplaced := first.replaced_le (Nat.zero_le _)
    refine ih ?_
    rw [count_after]
    split
    · rename_i h
      subst h
      omega
    · exact hp

lemma Round.names {log : List Entry} (h : Round limit reentry ds p w log p' w') :
    ∀ e ∈ log, e.1 ∈ ds.map (·.name) := by
  induction h with
  | nil => simp
  | @cons d ds p p' w w₁ w' s turns log first rest ih =>
    intro e he
    rcases List.mem_append.mp he with he | he
    · obtain ⟨turn, -, rfl⟩ := List.mem_map.mp he
      simp
    · exact List.mem_cons_of_mem _ (ih e he)

/-- A pass changes something by a replacement. -/
lemma Round.changed_iff {log : List Entry} (h : Round limit reentry ds p w log p' w') :
    p'.changed = true ↔ p.changed = true ∨ 0 < totalReplacements log := by
  induction h with
  | nil => simp [totalReplacements]
  | @cons d ds p p' w w₁ w' s turns log first rest ih =>
    have hreplaced : s.replaced = 0 + turns.countP Turn.replaces := first.replaced_eq
    rw [ih, totalReplacements_append, totalReplacements_map]
    simp only [after, Bool.or_eq_true, bne_iff_ne, ne_eq, or_assoc]
    exact or_congr_right (by omega)

lemma Rounds.count_eq {logs : List (List Entry)} (h : Rounds limit reentry ds p w logs p' w')
    (name : String) : p'.count name = p.count name + replacements name logs.flatten := by
  induction h with
  | last round _ =>
    rw [round.count_eq, List.flatten_singleton]
    rfl
  | more round _ _ ih =>
    rw [ih, round.count_eq, List.flatten_cons, replacements_append, Nat.add_assoc]
    rfl

lemma Rounds.count_le {logs : List (List Entry)} (h : Rounds limit reentry ds p w logs p' w')
    {name : String} (hp : p.count name ≤ limit) : p'.count name ≤ limit := by
  induction h with
  | last round _ => exact round.count_le hp
  | more round _ _ ih => exact ih (round.count_le hp)

lemma Rounds.names {logs : List (List Entry)} (h : Rounds limit reentry ds p w logs p' w') :
    ∀ e ∈ logs.flatten, e.1 ∈ ds.map (·.name) := by
  induction h with
  | last round _ => simpa using round.names
  | more round _ _ ih =>
    intro e he
    rw [List.flatten_cons] at he
    rcases List.mem_append.mp he with he | he
    · exact round.names e he
    · exact ih e he

/-- Every pass but the last has replaced something. -/
lemma Rounds.length_le {logs : List (List Entry)} (h : Rounds limit reentry ds p w logs p' w') :
    logs.length ≤ totalReplacements logs.flatten + 1 := by
  induction h with
  | last _ _ => simp
  | more round hmore _ ih =>
    have hpos := (round.changed_iff.mp (by grind)).resolve_left (by simp)
    rw [List.flatten_cons, totalReplacements_append, List.length_cons]
    omega

/-- What the directives are still allowed to replace. -/
def remaining (limit : Nat) (ds : List (Directive σ)) (p : Progress) : Nat :=
  (ds.map fun d => limit - p.count d.name).sum

/-- A pass that replaces something leaves less to be replaced. -/
lemma Round.remaining_lt {log : List Entry} (h : Round limit reentry ds p w log p' w')
    (hp : ∀ name, p.count name ≤ limit) (hlog : 0 < totalReplacements log) :
    p'.remaining limit ds < p.remaining limit ds := by
  obtain ⟨e, he, hreplaces⟩ := List.countP_pos_iff.mp hlog
  obtain ⟨d, hd, hname⟩ := List.mem_map.mp (h.names e he)
  have hone : 0 < replacements d.name log :=
    List.countP_pos_iff.mpr ⟨e, he, by simp [hname, hreplaces]⟩
  refine List.sum_lt_sum _ _ (fun d' _ => ?_) ⟨d, hd, ?_⟩
  · have hcount := h.count_eq d'.name
    omega
  · have hcount := h.count_eq d.name
    have hle := h.count_le (hp d.name)
    omega

/-- Passes come to an end. -/
theorem Rounds.total (limit : Nat) (reentry : Option (Reentry σ)) (ds : List (Directive σ))
    (p : Progress) (w : σ) (hp : ∀ name, p.count name ≤ limit) :
    ∃ logs p' w', Rounds limit reentry ds p w logs p' w' := by
  obtain ⟨log, p₁, w₁, hround⟩ := Round.total limit reentry ds { p with changed := false } w
  by_cases hmore : (p₁.changed && hasMarker p₁.text) = true
  · have hpos := (hround.changed_iff.mp (by grind)).resolve_left (by simp)
    have hlt := hround.remaining_lt hp hpos
    obtain ⟨logs, p', w', hrounds⟩ := Rounds.total limit reentry ds p₁ w₁ fun name =>
      hround.count_le (hp name)
    exact ⟨log :: logs, p', w', .more hround hmore hrounds⟩
  · exact ⟨[log], p₁, w₁, .last hround (by simpa using hmore)⟩
termination_by p.remaining limit ds
decreasing_by exact hlt

end Progress

namespace Resolver

variable {r : Resolver σ} {reentry : Option (Reentry σ)} {text : String} {context : Context}
  {w w' : σ} {logs : List (List Entry)} {result : String × Context}

lemma Course.replacements_le (h : r.Course reentry text context w logs result w')
    (name : String) : replacements name logs.flatten ≤ r.limitIn context := by
  cases h with
  | unmarked _ => simp [replacements]
  | @resolved p w' logs _ rounds =>
    have hcount : p.count name = 0 + replacements name logs.flatten := rounds.count_eq name
    have hle : p.count name ≤ r.limitIn context := rounds.count_le (Nat.zero_le _)
    omega

lemma Course.totalReplacements_le (h : r.Course reentry text context w logs result w') :
    totalReplacements logs.flatten ≤ r.registry.size * r.limitIn context := by
  have hnames : ∀ e ∈ logs.flatten, e.1 ∈ r.registry.ordered.map (·.name) := by
    cases h with
    | unmarked _ => simp
    | resolved _ rounds => exact rounds.names
  calc totalReplacements logs.flatten
      ≤ ((r.registry.ordered.map (·.name)).map (replacements · logs.flatten)).sum :=
        Pinboard.totalReplacements_le hnames
    _ ≤ ((r.registry.ordered.map (·.name)).map (replacements · logs.flatten)).length •
          r.limitIn context := by
        refine List.sum_le_card_nsmul _ _ fun n hn => ?_
        obtain ⟨name, -, rfl⟩ := List.mem_map.mp hn
        exact h.replacements_le name
    _ = r.registry.size * r.limitIn context := by simp

lemma Course.length_le (h : r.Course reentry text context w logs result w') :
    logs.length ≤ r.registry.size * r.limitIn context + 1 := by
  have htotal := h.totalReplacements_le
  cases h with
  | unmarked _ => simp
  | resolved _ rounds => exact rounds.length_le.trans (by omega)

/-- Resolving a text ends as the loops do. -/
theorem Course.resolveIn_eq (h : r.Course reentry text context w logs result w') :
    (r.resolveIn reentry text context).run w = (result, w') := by
  have hfuel := h.length_le
  cases h with
  | unmarked hmarker =>
    simp only [resolveIn, hmarker]
    rfl
  | resolved hmarker rounds =>
    simp only [resolveIn, hmarker, if_true, StateT.run_bind, passBound, rounds.passes_eq hfuel]
    rfl

theorem Course.total (r : Resolver σ) (reentry : Option (Reentry σ)) (text : String)
    (context : Context) (w : σ) :
    ∃ logs result w', r.Course reentry text context w logs result w' := by
  cases hmarker : hasMarker text.toList with
  | false => exact ⟨[], _, w, .unmarked hmarker⟩
  | true =>
    obtain ⟨logs, p, w', hrounds⟩ := Progress.Rounds.total (r.limitIn context) reentry
      r.registry.ordered ⟨text.toList, context, [], false⟩ w fun _ => Nat.zero_le _
    exact ⟨logs, _, w', .resolved hmarker hrounds⟩

/-- The loops of a resolution end, in one way only, which is what the resolver gives. No handler
runs more often than its directive may replace, and the replacements and passes of all directives
are bounded by their number. -/
theorem resolveIn_work_bounded (r : Resolver σ) (reentry : Option (Reentry σ)) (text : String)
    (context : Context) (w : σ) :
    ∃ logs result w', r.Course reentry text context w logs result w' ∧
      (∀ logs' result' w'', r.Course reentry text context w logs' result' w'' →
        logs' = logs ∧ result' = result ∧ w'' = w') ∧
      (r.resolveIn reentry text context).run w = (result, w') ∧
      (∀ d ∈ r.registry.directives, handlings d.name logs.flatten ≤ r.limitIn context) ∧
      totalReplacements logs.flatten ≤ r.registry.size * r.limitIn context ∧
      logs.length ≤ r.registry.size * r.limitIn context + 1 := by
  obtain ⟨logs, result, w', hcourse⟩ := Course.total r reentry text context w
  refine ⟨logs, result, w', hcourse, fun _ _ _ h => h.unique hcourse, hcourse.resolveIn_eq,
    fun d _ => ?_, hcourse.totalReplacements_le, hcourse.length_le⟩
  exact (handlings_le d.name logs.flatten).trans (hcourse.replacements_le d.name)

end Resolver

end Pinboard
