import Pinboard.Builtin.Catalogue
import Pinboard.Proofs.Schedule.Journal
import Pinboard.Proofs.Template.Outermost

/-!
# Deferral

Among the built-in directives `delay` comes first and from the outside in. It takes the text of its
body as it is written and leaves nothing behind, whether or not there is something to defer. So a
resolution appends its records to the schedule before anything else happens, and goes on with the
template that is left.
-/
namespace Pinboard

open Markup Time

variable {σ α β : Type}

namespace Action

/-- No value but one can be given. -/
def Only (x : Action σ α) (a : α) : Prop := ∀ w b, (x.run.run w).1 = .ok b → b = a

lemma only_pure (a : α) : Only (pure a : Action σ α) a := yields_pure rfl

lemma Only.bind {x : Action σ α} {f : α → Action σ β} {b : β} (h : ∀ a, Only (f a) b) :
    Only (x >>= f) b := yields_bind h

lemma Only.run_orElse {x : Action σ α} {a : α} (h : Only x a) (w : σ) :
    (orElse x a).run w = (a, (x.run.run w).2) := by
  cases hx : x.run.run w with
  | mk result w₁ =>
  have hrun : ExceptT.run x w = (result, w₁) := hx
  rw [StateT.run, orElse, hrun]
  cases result with
  | ok b => rw [h w b (by rw [hx])]
  | error e => rfl

/-- An action that is followed by a value ends in the state of the action. -/
lemma run_bind_pure (x : Action σ α) (b : β) (w : σ) :
    ((x >>= fun _ => pure b).run.run w).2 = (x.run.run w).2 := by
  cases hx : x.run.run w with
  | mk result w₁ =>
  cases result with
  | ok a =>
    rw [run_bind_ok hx]
    rfl
  | error e => rw [run_bind_error hx]

end Action

/-- How long a deferral is to wait: the flags of the header, else its parameter. -/
def Head.wait (head : Head) : String :=
  let flags := Text.join " " head.flags
  if flags.isEmpty then (head.params.get? "duration").getD "" else flags

/-- What the body of a node has been written as. -/
def Piece.source (p : Piece) : String := (p.body.map fun body => String.ofList body.render).getD ""

/-- What a node asks to defer, with the microseconds to wait: its body, unless this is empty or its
header gives no duration. -/
def Piece.deferral? (p : Piece) : Option (String × Nat) :=
  if p.source.isEmpty then none else (readDuration p.head.wait).toOption.map (p.source, ·)

/-- Services with a store that works for the schedule, and a clock and messages that leave it
alone. -/
structure Services.KeepsSchedule (services : Services σ) (value : σ → Option Json) : Prop where
  storage : services.storage.Keeps Stored.deferredKey value
  clock : ∀ w, ∃ now w', services.host.now.run.run w = (.ok now, w') ∧ value w' = value w
  toast : ∀ notifier ∈ services.notifier, ∀ title message w,
    value ((notifier.showToast title message).run.run w).2 = value w

namespace Builtin

/-- These are the records of the schedule. -/
abbrev Scheduled (services : Services σ) : List Deferred → σ → Prop :=
  Schedule.Holds services.storage Stored.deferredKey

/-! ## One run -/

section Run

variable (services : Services σ) (context : Context) (reentry : Option (Reentry σ))

lemma only_delay (m : Occurrence) :
    Action.Only ((delay services).handler m context reentry) Reply.nothing := by
  simp only [delay, directive]
  split
  · exact Action.only_pure _
  · refine .bind fun _ => .bind fun _ => .bind fun _ => .bind fun _ => ?_
    split
    · exact .bind fun _ => Action.only_pure _
    · exact Action.only_pure _

lemma run_delay (m : Occurrence) (w : σ) :
    ((delay services).run m context reentry).run w =
      (Reply.nothing, (((delay services).handler m context reentry).run.run w).2) :=
  (only_delay services context reentry m).run_orElse w

lemma delay_clears : (delay services).Clears reentry where
  outward := rfl
  fresh := rfl
  ungated := rfl
  nothing m context w := by rw [run_delay]

variable {services} {context reentry} {m : Occurrence} {w : σ}

/-- Without a body or a duration nothing happens. -/
lemma handler_passed
    (h : m.bodyText.isEmpty = true ∨ ∃ e, readDuration (waitText m) = .error e) :
    (((delay services).handler m context reentry).run.run w).2 = w := by
  simp only [delay, directive]
  by_cases hempty : m.bodyText.isEmpty = true
  · rw [if_pos hempty]
    rfl
  · obtain ⟨e, hread⟩ := h.resolve_left hempty
    rw [if_neg hempty, hread]
    rfl

/-- With both the body is scheduled. -/
lemma handler_deferred {value : σ → Option Json} (hservices : services.KeepsSchedule value)
    {records : List Deferred} (hrecords : Scheduled services records w)
    (hempty : ¬m.bodyText.isEmpty = true) {micros : Nat}
    (hread : readDuration (waitText m) = .ok micros) {now due : Timestamp} {w₁ : σ}
    (hnow : services.host.now.run.run w = (.ok now, w₁)) (hdue : now.plus? micros = some due) :
    Scheduled services (records ++ [Deferred.of m.bodyText due])
      (((delay services).handler m context reentry).run.run w).2 := by
  have hrecords₁ : Scheduled services records w₁ := by
    obtain ⟨now', w₁', hnow', hvalue⟩ := hservices.clock w
    obtain ⟨-, rfl⟩ := Prod.mk.inj (hnow.symm.trans hnow')
    exact hrecords.of_value hservices.storage hvalue
  have hwait : (Action.ofExcept (Except.mapError (durationFault (waitText m)) (.ok micros)) :
      Action σ Nat).run.run w = (.ok micros, w) := rfl
  have hdemand : (Action.demand .outOfRange (now.plus? micros) : Action σ Timestamp).run.run w₁ =
      (.ok due, w₁) := by
    rw [hdue]
    rfl
  have hschedule := hrecords₁.schedule_eq hservices.storage m.bodyText due
  have hholds := Schedule.holds_afterSave hservices.storage
    (records ++ [Deferred.of m.bodyText due])
    (Schedule.afterRead services.storage Stored.deferredKey w₁)
  simp only [delay, directive]
  rw [if_neg hempty, hread, Action.run_bind_ok hwait, Action.run_bind_ok hnow,
    Action.run_bind_ok hdemand, Action.run_bind_ok hschedule]
  split
  · rename_i notifier hnotifier
    refine hholds.of_value hservices.storage ?_
    rw [Action.run_bind_pure]
    exact hservices.toast notifier hnotifier _ _ _
  · exact hholds

variable {p : Piece} {start : Nat}

lemma bodyText_occurrence (p : Piece) (start : Nat) : (p.occurrence start).bodyText = p.source := by
  obtain ⟨path, head, body⟩ := p
  cases body <;> rfl

/-- A node that asks for nothing changes nothing. -/
lemma run_delay_passed (h : p.deferral? = none) :
    ((delay services).run (p.occurrence start) context reentry).run w = (Reply.nothing, w) := by
  rw [run_delay, handler_passed]
  rw [bodyText_occurrence]
  by_cases hempty : p.source.isEmpty = true
  · exact .inl hempty
  · cases hread : readDuration p.head.wait with
    | ok micros => simp [Piece.deferral?, hempty, hread, Except.toOption] at h
    | error e => exact .inr ⟨e, hread⟩

/-- A record is appended for what a node asks for. -/
lemma run_delay_deferred {value : σ → Option Json} (hservices : services.KeepsSchedule value)
    {records : List Deferred} (hrecords : Scheduled services records w) {target : String}
    {micros : Nat} (h : p.deferral? = some (target, micros)) {now due : Timestamp} {w₁ : σ}
    (hnow : services.host.now.run.run w = (.ok now, w₁)) (hdue : now.plus? micros = some due) :
    ∃ w', ((delay services).run (p.occurrence start) context reentry).run w = (Reply.nothing, w') ∧
      Scheduled services (records ++ [Deferred.of target due]) w' := by
  refine ⟨_, run_delay .., ?_⟩
  have hempty : ¬p.source.isEmpty = true := fun hempty => by simp [Piece.deferral?, hempty] at h
  cases hread : readDuration p.head.wait with
  | error e => simp [Piece.deferral?, hread, Except.toOption] at h
  | ok n =>
    obtain ⟨rfl, rfl⟩ : p.source = target ∧ n = micros := by
      simpa [Piece.deferral?, hempty, hread, Except.toOption] using h
    rw [← bodyText_occurrence p start] at hempty ⊢
    exact handler_deferred hservices hrecords hempty hread hnow hdue

end Run

/-- Nodes of `delay` are run one after the other. One that asks for something gives a record, due at
the wait after the moment at which it is run; any other leaves the state as it is. -/
inductive Defers (services : Services σ) (reentry : Option (Reentry σ)) (context : Context) :
    List Piece → σ → List Turn → List Deferred → σ → Prop
  | nil {w : σ} : Defers services reentry context [] w [] [] w
  | passed {p : Piece} {ps : List Piece} {start : Nat} {w w' : σ} {turns : List Turn}
      {records : List Deferred} (hasks : p.deferral? = none)
      (hrun : ((delay services).run (p.occurrence start) context reentry).run w =
        (Reply.nothing, w))
      (rest : Defers services reentry context ps w turns records w') :
      Defers services reentry context (p :: ps) w
        (.handled (p.occurrence start) Reply.nothing :: turns) records w'
  | deferred {p : Piece} {ps : List Piece} {start : Nat} {w w₁ w₂ w' : σ} {turns : List Turn}
      {records : List Deferred} {target : String} {micros : Nat} {now due : Timestamp}
      (hasks : p.deferral? = some (target, micros))
      (hnow : services.host.now.run.run w = (.ok now, w₁)) (hdue : now.plus? micros = some due)
      (hrun : ((delay services).run (p.occurrence start) context reentry).run w =
        (Reply.nothing, w₂))
      (rest : Defers services reentry context ps w₂ turns records w') :
      Defers services reentry context (p :: ps) w
        (.handled (p.occurrence start) Reply.nothing :: turns)
        (Deferred.of target due :: records) w'

section Defers

variable {services : Services σ} {reentry : Option (Reentry σ)} {context : Context}
  {ps : List Piece} {w w' : σ} {turns : List Turn}

/-- Under a clock that stands still the records are known beforehand. -/
lemma Defers.records_eq {records : List Deferred} {now : Timestamp}
    (h : Defers services reentry context ps w turns records w')
    (hnow : ∀ w t w', services.host.now.run.run w = (.ok t, w') → t = now) :
    records = (ps.filterMap Piece.deferral?).filterMap fun asked =>
      (now.plus? asked.2).map (Deferred.of asked.1) := by
  induction h with
  | nil => rfl
  | passed hasks _ _ ih => simpa [hasks] using ih
  | deferred hasks hclock hdue _ _ ih =>
    obtain rfl := hnow _ _ _ hclock
    simpa [hasks, hdue] using ih

/-- Each wait that is asked for can be added to whatever moment the clock gives. -/
def WaitsFit (services : Services σ) (ps : List Piece) : Prop :=
  ∀ p ∈ ps, ∀ target micros, p.deferral? = some (target, micros) → ∀ w now w',
    services.host.now.run.run w = (.ok now, w') → (now.plus? micros).isSome = true

/-- The records go to the end of the schedule. -/
lemma exists_defers {value : σ → Option Json} (hservices : services.KeepsSchedule value)
    (hdates : WaitsFit services ps)
    (h : RunsOn (delay services) reentry context ps w turns w') {earlier : List Deferred}
    (hearlier : Scheduled services earlier w) :
    ∃ records, Defers services reentry context ps w turns records w' ∧
      Scheduled services (earlier ++ records) w' := by
  induction h generalizing earlier with
  | nil => exact ⟨[], .nil, by rwa [List.append_nil]⟩
  | @cons p ps start w w₁ w' turns hrun _ ih =>
    have hlater : WaitsFit services ps := fun q hq => hdates q (List.mem_cons_of_mem _ hq)
    cases hasks : p.deferral? with
    | none =>
      obtain ⟨-, rfl⟩ := Prod.mk.inj (hrun.symm.trans (run_delay_passed hasks))
      obtain ⟨records, hdefers, hrecords⟩ := ih hlater hearlier
      exact ⟨records, .passed hasks hrun hdefers, hrecords⟩
    | some asked =>
      obtain ⟨target, micros⟩ := asked
      obtain ⟨now, w₀, hnow, -⟩ := hservices.clock w
      obtain ⟨due, hdue⟩ := Option.isSome_iff_exists.mp
        (hdates p List.mem_cons_self target micros hasks w now w₀ hnow)
      obtain ⟨w₂, hrun', hholds⟩ := run_delay_deferred hservices hearlier hasks hnow hdue
      obtain ⟨-, rfl⟩ := Prod.mk.inj (hrun.symm.trans hrun')
      obtain ⟨records, hdefers, hrecords⟩ := ih hlater hholds
      refine ⟨Deferred.of target due :: records, .deferred hasks hnow hdue hrun hdefers, ?_⟩
      rwa [List.append_assoc] at hrecords

end Defers

end Builtin

namespace Progress

variable {limit : Nat} {reentry : Option (Reentry σ)} {ds : List (Directive σ)}

/-- The passes that follow on one, if it is not the last. -/
inductive Following (limit : Nat) (reentry : Option (Reentry σ)) (ds : List (Directive σ)) :
    Progress → σ → List (List Entry) → Progress → σ → Prop
  | none {p : Progress} {w : σ} (hend : (p.changed && hasMarker p.text) = false) :
      Following limit reentry ds p w [] p w
  | some {p p' : Progress} {w w' : σ} {logs : List (List Entry)}
      (hmore : (p.changed && hasMarker p.text) = true)
      (rounds : Rounds limit reentry ds p w logs p' w') :
      Following limit reentry ds p w logs p' w'

lemma Following.total (limit : Nat) (reentry : Option (Reentry σ)) (ds : List (Directive σ))
    {p : Progress} (w : σ) (hp : ∀ name, p.count name ≤ limit) :
    ∃ logs p' w', Following limit reentry ds p w logs p' w' := by
  by_cases hmore : (p.changed && hasMarker p.text) = true
  · obtain ⟨logs, p', w', hrounds⟩ := Rounds.total limit reentry ds p w hp
    exact ⟨logs, p', w', .some hmore hrounds⟩
  · exact ⟨[], p, w, .none (by simpa using hmore)⟩

lemma Following.rounds {p p' : Progress} {w₀ w w' : σ} {log : List Entry}
    {logs : List (List Entry)} (h : Following limit reentry ds p w logs p' w') (p₀ : Progress)
    (round : Round limit reentry ds { p₀ with changed := false } w₀ log p w) :
    Rounds limit reentry ds p₀ w₀ (log :: logs) p' w' := by
  cases h with
  | none hend => exact .last round hend
  | some hmore rounds => exact .more round hmore rounds

end Progress

namespace Builtin

open Template Progress

/-- The resolver of the built-in directives with a limit. -/
abbrev resolver (services : Services σ) (limit : Option Nat) : Resolver σ :=
  ⟨registry services, limit⟩

/-- The built-in directives after `delay`, in the order of resolution. -/
def others (services : Services σ) : List (Directive σ) := (registry services).ordered.tail

lemma ordered_registry (services : Services σ) :
    (registry services).ordered = delay services :: others services := rfl

/-- A resolution whose first sweep has taken the nodes of `delay` away. -/
def withoutDelays (t : Template) (context : Context) : Progress where
  text := (cut ["delay"] t).render
  context := context
  counts := [("delay", (outer ["delay"] t).length)]
  changed := (outer ["delay"] t).length != 0

/-- How a resolution goes on after the first turns of `delay`: the other directives take their part
of the first pass, over the template without the nodes of `delay`, and passes follow. The logs are
those of the whole resolution. -/
inductive GoesOn (services : Services σ) (limit : Nat) (reentry : Option (Reentry σ)) (t : Template)
    (context : Context) (turns : List Turn) (w : σ) :
    List (List Entry) → String × Context → σ → Prop
  | intro {p p' : Progress} {w₁ w' : σ} {log : List Entry} {later logs : List (List Entry)}
      (first : Round limit reentry (others services) (withoutDelays t context) w log p w₁)
      (following : Following limit reentry (registry services).ordered p w₁ later p' w')
      (hlogs : logs.flatten = turns.map ("delay", ·) ++ (log ++ later.flatten)) :
      GoesOn services limit reentry t context turns w logs (String.ofList p'.text, p'.context) w'

section Resolution

variable {services : Services σ} {reentry : Option (Reentry σ)} {t : Template} {context : Context}

lemma isPlain_delay (services : Services σ) : ∀ s ∈ (delay services).spellings, IsPlain s :=
  (by decide : ∀ s ∈ ["delay"], IsPlain s)

lemma outer_of_unmarked (h : hasMarker t.render = false) : outer ["delay"] t = [] := by
  have hplain : ∀ s ∈ ["delay"], IsPlain s := by decide
  cases houter : outer ["delay"] t with
  | nil => rfl
  | cons piece pieces =>
    have hforemost := foremost_of_outer houter
    obtain ⟨start, hat⟩ := hforemost.occurrenceAt? 0
    have hfind := (find?_outer hplain hforemost).trans hat
    rw [find?_unmarked h] at hfind
    cases hfind

/-- The first sweep of a resolution runs `delay` on its outermost nodes. -/
lemma exists_runsOn (services : Services σ) (reentry : Option (Reentry σ)) (context : Context)
    {limit : Nat} (hlimit : t.nodes.countP (·.name = "delay") ≤ limit) (w : σ) :
    ∃ turns w₁, RunsOn (delay services) reentry context (outer ["delay"] t) w turns w₁ ∧
      ∀ log p w₂, Round limit reentry (others services) (withoutDelays t context) w₁ log p w₂ →
        Round limit reentry (registry services).ordered ⟨t.render, context, [], false⟩ w
          (turns.map ("delay", ·) ++ log) p w₂ := by
  have hlength : 0 + (outer ["delay"] t).length ≤ limit := by
    have hle := length_outer_le ["delay"] t
    simp only [List.mem_singleton] at hle
    omega
  obtain ⟨turns, w₁, hruns, hloop⟩ := Sweep.Loop.of_outer (delay_clears services reentry)
    (isPlain_delay services) rfl hlength context w
  refine ⟨turns, w₁, hruns, fun log p w₂ hround => ?_⟩
  have hafter : Progress.after ⟨t.render, context, [], false⟩ (delay services)
      ⟨(cut (delay services).spellings t).render, context, 0, [],
        0 + (outer (delay services).spellings t).length⟩ = withoutDelays t context := by
    have hcount : Progress.count ⟨t.render, context, [], false⟩ (delay services).name = 0 := rfl
    simp only [Progress.after, withoutDelays, hcount, Nat.zero_add, Bool.false_or]
    rfl
  rw [ordered_registry]
  refine .cons hloop ?_
  rw [hafter]
  exact hround

variable {limit : Option Nat} {turns : List Turn} {w w₁ : σ}

lemma goesOn_of_marked (hmarker : hasMarker t.render = true)
    (hround : ∀ log p w₂, Round ((resolver services limit).limitIn context) reentry
        (others services) (withoutDelays t context) w₁ log p w₂ →
      Round ((resolver services limit).limitIn context) reentry (registry services).ordered
        ⟨t.render, context, [], false⟩ w (turns.map ("delay", ·) ++ log) p w₂) :
    ∃ logs result w', GoesOn services ((resolver services limit).limitIn context) reentry t context
        turns w₁ logs result w' ∧
      (resolver services limit).Course reentry (String.ofList t.render) context w logs result
        w' := by
  obtain ⟨log, p, w₂, hothers⟩ := Round.total ((resolver services limit).limitIn context) reentry
    (others services) (withoutDelays t context) w₁
  have hfirst := hround log p w₂ hothers
  obtain ⟨later, p', w', hlater⟩ := Following.total ((resolver services limit).limitIn context)
    reentry (registry services).ordered w₂ fun name => hfirst.count_le (Nat.zero_le _)
  have hrounds := hlater.rounds ⟨t.render, context, [], false⟩ hfirst
  rw [← String.toList_ofList (l := t.render)] at hmarker hrounds
  exact ⟨_, _, w', .intro hothers hlater (by simp), .resolved hmarker hrounds⟩

/-- A text without a marker holds no node of a directive and comes back as it is. -/
lemma goesOn_of_unmarked (services : Services σ) (limit : Option Nat)
    (reentry : Option (Reentry σ)) (context : Context) (hmarker : hasMarker t.render = false)
    (w : σ) :
    ∃ logs result, GoesOn services ((resolver services limit).limitIn context) reentry t context
        [] w logs result w ∧
      (resolver services limit).Course reentry (String.ofList t.render) context w logs result
        w := by
  have houter := outer_of_unmarked hmarker
  have hstart : withoutDelays t context = ⟨t.render, context, [("delay", 0)], false⟩ := by
    rw [withoutDelays, cut_eq_self houter, houter]
    rfl
  have habsent : ∀ d ∈ others services,
      find? d.spellings (!d.eager) 0 (withoutDelays t context).text = none := fun d _ => by
    rw [hstart]
    exact find?_unmarked hmarker
  obtain ⟨p, hothers, htext, hcontext⟩ := Round.of_absent
    ((resolver services limit).limitIn context) reentry w habsent
  have hnone : Following ((resolver services limit).limitIn context) reentry
      (registry services).ordered p w [] p w := by
    refine .none ?_
    rw [htext, hstart, hmarker, Bool.and_false]
  refine ⟨[], _, .intro hothers hnone rfl, ?_⟩
  rw [htext, hcontext, hstart]
  exact .unmarked (by rwa [String.toList_ofList])

end Resolution

/-- Before anything else a resolution runs `delay` on its outermost nodes from left to right, and
what these ask for goes to the end of the schedule. Then the other directives go on with the
template without them: its nodes are those that are no node of `delay` and in none. -/
theorem resolveIn_defers {services : Services σ} {value : σ → Option Json}
    (hservices : services.KeepsSchedule value) (limit : Option Nat) (reentry : Option (Reentry σ))
    (t : Template) (context : Context) (hdates : WaitsFit services (outer ["delay"] t))
    (hlimit : t.nodes.countP (·.name = "delay") ≤ (resolver services limit).limitIn context)
    {earlier : List Deferred} {w : σ} (hearlier : Scheduled services earlier w) :
    ∃ turns records w₁ logs result w',
      Defers services reentry context (outer ["delay"] t) w turns records w₁ ∧
      Scheduled services (earlier ++ records) w₁ ∧
      (cut ["delay"] t).nodes = t.nodes.filter (Node.Outside ["delay"] ·) ∧
      GoesOn services ((resolver services limit).limitIn context) reentry t context turns w₁ logs
        result w' ∧
      (resolver services limit).Course reentry (String.ofList t.render) context w logs result w' ∧
      ((resolver services limit).resolveIn reentry (String.ofList t.render) context).run w =
        (result, w') := by
  obtain ⟨turns, w₁, hruns, hround⟩ := exists_runsOn services reentry context hlimit w
  obtain ⟨records, hdefers, hrecords⟩ := exists_defers hservices hdates hruns hearlier
  suffices hcourse : ∃ logs result w', GoesOn services ((resolver services limit).limitIn context)
      reentry t context turns w₁ logs result w' ∧
      (resolver services limit).Course reentry (String.ofList t.render) context w logs result w' by
    obtain ⟨logs, result, w', hgoesOn, hcourse⟩ := hcourse
    exact ⟨turns, records, w₁, logs, result, w', hdefers, hrecords, nodes_cut _ t, hgoesOn, hcourse,
      hcourse.resolveIn_eq⟩
  cases hmarker : hasMarker t.render with
  | true => exact goesOn_of_marked hmarker hround
  | false =>
    rw [outer_of_unmarked hmarker] at hruns
    cases hruns with
    | nil =>
      obtain ⟨logs, result, hgoesOn, hcourse⟩ :=
        goesOn_of_unmarked services limit reentry context hmarker w
      exact ⟨logs, result, w, hgoesOn, hcourse⟩

/-- A node of `delay` with one flag for its header. -/
def waiting (flag : String) (hbraceless : Braceless (" " ++ flag).toList)
    (hread : Header.read? (" " ++ flag).toList = some ⟨[], [flag], none⟩) : Head where
  name := "delay"
  header := " " ++ flag
  params := []
  flags := [flag]
  plain := by decide
  braceless := hbraceless
  blank := by simp [String.toList_append]; decide
  read := hread

/-- A node of `delay` that holds another, inside a message, and one after it with no duration. -/
def nestedDelays : Template :=
  .full (bareHead "toast" (by decide))
    (.full (waiting "5m" (by decide) rfl)
      (.text ⟨"ring ", by decide⟩
        (.full (waiting "1s" (by decide) rfl) (.text ⟨"twice", by decide⟩ .nil) .nil)) .nil)
    (.full (waiting "soon" (by decide) rfl) (.text ⟨"never", by decide⟩ .nil) .nil)

lemma deferral?_nestedDelays : (outer ["delay"] nestedDelays).filterMap Piece.deferral? =
    [("ring \x7b\x7bdelay 1s:twice\x7d\x7d", 300000000)] := by
  decide +kernel

lemma keepsSchedule_servicesAt (now : Timestamp) :
    (Journal.servicesAt now).KeepsSchedule (Fields.get? Stored.deferredKey) where
  storage := Journal.keeps Stored.deferredKey
  clock w := ⟨now, w, rfl, rfl⟩
  toast _ hnotifier := nomatch hnotifier

def fivePastNine : Timestamp := Journal.onDay ⟨9, 5, 0, 0, by decide⟩ (some .utc)

/-- At nine, with a record there already, the node in the message is deferred as it is written and
the last one is not. -/
theorem resolveIn_defers_nestedDelays :
    ((Journal.servicesAt Journal.nine).KeepsSchedule (Fields.get? Stored.deferredKey) ∧
      WaitsFit (Journal.servicesAt Journal.nine) (outer ["delay"] nestedDelays) ∧
      nestedDelays.nodes.countP (·.name = "delay") ≤
        (resolver (Journal.servicesAt Journal.nine) (some 3)).limitIn echoContext ∧
      Scheduled (Journal.servicesAt Journal.nine) [Journal.bell Journal.evening]
        (Journal.holding Stored.deferredKey [Journal.bell Journal.evening])) ∧
    ∃ turns w₁, Defers (Journal.servicesAt Journal.nine) none echoContext
        (outer ["delay"] nestedDelays)
        (Journal.holding Stored.deferredKey [Journal.bell Journal.evening]) turns
        [Deferred.of "ring \x7b\x7bdelay 1s:twice\x7d\x7d" fivePastNine] w₁ ∧
      Scheduled (Journal.servicesAt Journal.nine) [Journal.bell Journal.evening,
        Deferred.of "ring \x7b\x7bdelay 1s:twice\x7d\x7d" fivePastNine] w₁ := by
  have hservices := keepsSchedule_servicesAt Journal.nine
  have hnow : ∀ w t w', (Journal.servicesAt Journal.nine).host.now.run.run w = (.ok t, w') →
      t = Journal.nine := fun w t w' h => (Except.ok.inj (Prod.mk.inj h).1).symm
  have hdates : WaitsFit (Journal.servicesAt Journal.nine) (outer ["delay"] nestedDelays) := by
    intro p hp target micros hasks w now w' hclock
    obtain rfl := hnow w now w' hclock
    have hasked : (target, micros) ∈ (outer ["delay"] nestedDelays).filterMap Piece.deferral? :=
      List.mem_filterMap.mpr ⟨p, hp, hasks⟩
    rw [deferral?_nestedDelays] at hasked
    obtain ⟨-, rfl⟩ : target = "ring \x7b\x7bdelay 1s:twice\x7d\x7d" ∧ micros = 300000000 := by
      simpa using hasked
    decide +kernel
  have hlimit : nestedDelays.nodes.countP (·.name = "delay") ≤
      (resolver (Journal.servicesAt Journal.nine) (some 3)).limitIn echoContext := by decide
  have hearlier := Journal.holds_holding Stored.deferredKey [Journal.bell Journal.evening]
  refine ⟨⟨hservices, hdates, hlimit, hearlier⟩, ?_⟩
  obtain ⟨turns, records, w₁, -, -, -, hdefers, hrecords, -⟩ :=
    resolveIn_defers hservices (some 3) none nestedDelays echoContext hdates hlimit hearlier
  have hsame : records = [Deferred.of "ring \x7b\x7bdelay 1s:twice\x7d\x7d" fivePastNine] := by
    rw [hdefers.records_eq hnow, deferral?_nestedDelays]
    decide +kernel
  subst hsame
  exact ⟨turns, w₁, hdefers, hrecords⟩

end Builtin

end Pinboard
