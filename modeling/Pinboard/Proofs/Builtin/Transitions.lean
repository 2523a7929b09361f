import Pinboard.Builtin.Catalogue
import Pinboard.Proofs.Resolution.Transitions
import Pinboard.Proofs.Script.Transitions

/-!
# Transitions of the built-in directives

The built-in directives touch the state through the services and the way back into the resolver. A
relation that the services keep to is therefore kept to by all of them, once it is known for the few
that change pins and groups and for the record of a use.
-/
namespace Pinboard

open Markup

variable {σ : Type}

/-- The calls of services that built-in directives make, those that change pins or groups apart. -/
inductive Services.Calls (services : Services σ) : ∀ {α : Type}, Action σ α → Prop
  | listPins : Calls services services.pins.list
  | listGroups : Calls services services.groups.list
  | getValue (key : String) : Calls services (services.storage.get? key)
  | setValue (key : String) (v : Json) : Calls services (services.storage.set key v)
  | clipboard {p : Platform σ} (h : p ∈ services.platform) : Calls services p.clipboard
  | selectedText {p : Platform σ} (h : p ∈ services.platform) : Calls services p.selectedText
  | application {p : Platform σ} (h : p ∈ services.platform) : Calls services p.application
  | directory {p : Platform σ} (h : p ∈ services.platform) : Calls services p.directory
  | files {p : Platform σ} (h : p ∈ services.platform) : Calls services p.files
  | tab {p : Platform σ} (h : p ∈ services.platform) : Calls services p.tab
  | track {p : Platform σ} (h : p ∈ services.platform) : Calls services p.track
  | setClipboard {p : Platform σ} (h : p ∈ services.platform) (text : String) :
    Calls services (p.setClipboard text)
  | paste {p : Platform σ} (h : p ∈ services.platform) (text : String) :
    Calls services (p.paste text)
  | runShell {p : Platform σ} (h : p ∈ services.platform) (command : String) :
    Calls services (p.runShell command)
  | openTarget {p : Platform σ} (h : p ∈ services.platform) (target : String)
      (application : Option String) : Calls services (p.openTarget target application)
  | speak {p : Platform σ} (h : p ∈ services.platform) (text : String) (voice : Option String) :
    Calls services (p.speak text voice)
  | runInBrowser {p : Platform σ} (h : p ∈ services.platform) (script browser : String) :
    Calls services (p.runInBrowser script browser)
  | showMessage {n : Notifier σ} (h : n ∈ services.notifier) (text : String) :
    Calls services (n.showMessage text)
  | showAlert {n : Notifier σ} (h : n ∈ services.notifier) (title text : String) :
    Calls services (n.showAlert title text)
  | showToast {n : Notifier σ} (h : n ∈ services.notifier) (title text : String) :
    Calls services (n.showToast title text)
  | prompt {n : Notifier σ} (h : n ∈ services.notifier) (text title default : String) :
    Calls services (n.prompt text title default)
  | confirm {n : Notifier σ} (h : n ∈ services.notifier) (text title : String) :
    Calls services (n.confirm text title)
  | complete {c : Completion σ} (h : c ∈ services.completion) (prompt : String)
      (model : Option String) (creativity : Number.Binary64) :
    Calls services (c.complete prompt model creativity)
  | now : Calls services services.host.now
  | freshNumber : Calls services services.host.freshNumber
  | stopwatch : Calls services services.host.stopwatch
  | pathExists (path : String) : Calls services (services.host.pathExists path)
  | sample (bound count : Nat) : Calls services (services.host.sample bound count)

/-- These calls keep to the relation. -/
def Services.KeepsTo (R : σ → σ → Prop) (services : Services σ) : Prop :=
  ∀ ⦃α : Type⦄ ⦃x : Action σ α⦄, services.Calls x → x.KeepsTo R

variable {R : σ → σ → Prop} [Std.Refl R] [IsTrans σ R] {services : Services σ}

open Action

/-! ## State of the engine -/

section State

variable (h : services.KeepsTo R)
include h

lemma Stored.keepsTo_load (key : String) : (Stored.load services.storage key).KeepsTo R :=
  .bind (h (.getValue key)) fun _ => keepsTo_ofExcept _

lemma Variables.keepsTo_load : (Variables.load services.storage).KeepsTo R :=
  .bind (Stored.keepsTo_load h _) fun _ => keepsTo_mapM (fun _ => keepsTo_ofChecked _ _) _

lemma RecentApps.keepsTo_load : (RecentApps.load services.storage).KeepsTo R :=
  .bind (Stored.keepsTo_load h _) fun _ => keepsTo_mapM (fun _ => keepsTo_ofChecked _ _) _

lemma Schedule.keepsTo_schedule (key target : String) (due : Time.Timestamp) :
    (Schedule.schedule services.storage key target due).KeepsTo R :=
  .bind (.bind (Stored.keepsTo_load h key) fun _ => keepsTo_pure _) fun _ =>
    .bind (h (.setValue _ _)) fun _ => keepsTo_pure _

end State

/-! ## Opening pins -/

namespace Launch

section

variable (h : services.KeepsTo R)
include h

lemma keepsTo_handOver (p : Pin) (target : String) : (handOver services p target).KeepsTo R := by
  refine .demand_bind fun platform hplatform => ?_
  split
  · refine .bind (h (.pathExists target)) fun there => ?_
    dsimp only
    split
    · exact keepsTo_throw _
    · exact .bind (h (.openTarget hplatform _ _)) fun _ => h (.setValue _ _)
  · split
    · exact .bind (h (.openTarget hplatform _ _)) fun _ => h (.setValue _ _)
    · exact .bind (h (.runShell hplatform _)) fun _ => h (.setValue _ _)

lemma keepsTo_copyFragment (p : Pin) : (copyFragment services p).KeepsTo R := by
  refine .demand_bind fun platform hplatform => .bind (h (.setClipboard hplatform _)) fun _ => ?_
  dsimp only
  split
  · exact .bind (h (.showToast ‹_› _ _)) fun _ => h (.setValue _ _)
  · exact h (.setValue _ _)

lemma keepsTo_use {resolve : String → Context → Action σ String}
    (hresolve : ∀ text context, (resolve text context).KeepsTo R) (p : Pin) (context : Context) :
    (use services resolve p context).KeepsTo R := by
  unfold use
  split
  · exact .bind (keepsTo_copyFragment h p) fun _ => keepsTo_pure _
  · refine .bind (hresolve _ context) fun target => ?_
    dsimp only
    split
    · exact .bind (keepsTo_handOver h p target) fun _ => keepsTo_pure _
    · exact keepsTo_pure _

omit [IsTrans σ R] in
lemma keepsTo_report (p : Pin) (fault : Fault) : (report services p fault).KeepsTo R := by
  unfold report
  split
  · exact h (.showMessage ‹_› _)
  · exact keepsTo_pure _

/-- An opening keeps to a relation that the resolution of targets and the record of a use keep to. -/
theorem keepsTo_openPin {resolve : String → Context → Action σ String}
    (hresolve : ∀ text context, (resolve text context).KeepsTo R)
    (hrecord : ∀ p elapsed, (recordUse services p elapsed).KeepsTo R) (p : Pin)
    (environment : Option Environment) (extras : Fields Json) (depth : Nat) :
    (openPin services resolve p environment extras depth).KeepsTo R := by
  have hafter : ∀ (started : Nat) (target : String), (do
      let stopped ← services.host.stopwatch
      Action.total (Action.orElse (recordUse services p (stopped - started)) ())
      pure target : Action σ String).KeepsTo R := fun started target =>
    .bind (h .stopwatch) fun _ => .bind ((hrecord p _).orElse ()).total fun _ => keepsTo_pure _
  unfold openPin
  split
  · exact keepsTo_throw _
  · refine .bind (h .stopwatch) fun started => ?_
    refine .bind (keepsTo_use h hresolve p _).total fun result => ?_
    cases result with
    | ok target => exact hafter started target
    | error fault => exact .bind (keepsTo_report h p fault) fun _ => hafter started ""

end

end Launch

/-! ## Handlers -/

namespace Builtin

section

variable (h : services.KeepsTo R)
include h

/-- A reading of the host that is remembered. -/
lemma keepsTo_reading {α : Type} {call : Platform σ → Action σ α}
    (hcall : ∀ p ∈ services.platform, services.Calls (call p)) (name : String) (f : α → String) :
    (services.needPlatform >>= fun platform => (call platform >>= fun a => pure (f a)) >>=
      fun value => pure (remembered name value)).KeepsTo R :=
  .demand_bind fun p hp => .bind (.bind (h (hcall p hp)) fun _ => keepsTo_pure _) fun _ =>
    keepsTo_pure _

lemma keepsTo_ambient : ∀ d ∈ ambient services, ∀ (m : Occurrence) (context : Context)
    (reentry : Option (Reentry σ)), (d.handler m context reentry).KeepsTo R := by
  have hnow : ∀ f : Time.Timestamp → Reply,
      (services.host.now >>= fun now => pure (f now)).KeepsTo R :=
    fun f => .bind (h .now) fun _ => keepsTo_pure _
  simp only [ambient, List.forall_mem_cons]
  refine ⟨?_, ?_, ?_, ?_, ?_, ?_, ?_, ?_, ?_, ?_, ?_, ?_, ?_, ?_, ?_, ?_, ?_, by simp⟩
  all_goals intro m context reentry
  · exact keepsTo_reading h (fun _ hp => .clipboard hp) _ _
  · exact keepsTo_reading h (fun _ hp => .selectedText hp) _ _
  · exact keepsTo_reading h (fun _ hp => .application hp) _ _
  · exact keepsTo_reading h (fun _ hp => .application hp) _ _
  · exact keepsTo_reading h (fun _ hp => .directory hp) _ _
  · exact keepsTo_reading h (fun _ hp => .tab hp) _ _
  · exact keepsTo_reading h (fun _ hp => .tab hp) _ _
  · exact keepsTo_reading h (fun _ hp => .files hp) _ _
  · exact keepsTo_reading h (fun _ hp => .track hp) _ _
  · exact hnow _
  · exact hnow _
  · exact hnow _
  · exact keepsTo_pure _
  · exact keepsTo_pure _
  · exact keepsTo_pure _
  · exact keepsTo_pure _
  · exact hnow _

lemma keepsTo_subset {α : Type} (items : List α) (amount : Option Nat) :
    (subset services items amount).KeepsTo R := by
  cases amount with
  | none => exact keepsTo_pure _
  | some n =>
    rw [subset]
    split
    · exact keepsTo_pure _
    · exact .bind (h (.sample _ _)) fun _ => keepsTo_pure _

lemma keepsTo_listedPins (m : Occurrence) : (listedPins services m).KeepsTo R :=
  .bind (h .listPins) fun pins => .bind (keepsTo_ofExcept _) fun amount =>
    keepsTo_subset h pins amount

lemma keepsTo_listedGroups (m : Occurrence) : (listedGroups services m).KeepsTo R :=
  .bind (h .listGroups) fun groups => .bind (keepsTo_ofExcept _) fun amount =>
    keepsTo_subset h groups amount

lemma keepsTo_findPin (ref : String) : (findPin services ref).KeepsTo R :=
  .bind (h .listPins) fun _ => keepsTo_pure _

lemma keepsTo_findGroup (ref : String) : (findGroup services ref).KeepsTo R :=
  .bind (h .listGroups) fun _ => keepsTo_pure _

lemma keepsTo_lastPin : (lastPin? services).KeepsTo R := by
  refine .bind (.bind (h (.getValue _)) fun _ => keepsTo_pure _) fun id => ?_
  cases id with
  | none => exact keepsTo_pure _
  | some id => exact .bind (h .listPins) fun _ => keepsTo_pure _

lemma keepsTo_stored : ∀ d ∈ stored services, ∀ (m : Occurrence) (context : Context)
    (reentry : Option (Reentry σ)), (d.handler m context reentry).KeepsTo R := by
  simp only [stored, List.forall_mem_cons]
  refine ⟨?_, ?_, ?_, ?_, ?_, ?_, ?_, ?_, ?_, ?_, ?_, ?_, ?_, by simp⟩
  all_goals intro m context reentry
  · exact keepsTo_pure _
  · exact keepsTo_pure _
  · exact .bind (.bind (keepsTo_listedPins h m) fun _ => .bind (keepsTo_ofExcept _) fun _ =>
      keepsTo_pure _) fun _ => keepsTo_pure _
  · exact .bind (.bind (keepsTo_listedPins h m) fun _ => .bind (keepsTo_ofExcept _) fun _ =>
      keepsTo_pure _) fun _ => keepsTo_pure _
  · exact .bind (.bind (keepsTo_listedPins h m) fun _ => keepsTo_demand _ _) fun _ =>
      keepsTo_pure _
  · exact .bind (.bind (keepsTo_listedGroups h m) fun _ => keepsTo_pure _) fun _ => keepsTo_pure _
  · exact .bind (.bind (keepsTo_listedGroups h m) fun _ => keepsTo_demand _ _) fun _ =>
      keepsTo_pure _
  · exact .bind (RecentApps.keepsTo_load h) fun _ => .bind (keepsTo_demand _ _) fun _ =>
      keepsTo_pure _
  · exact .bind (keepsTo_lastPin h) fun _ => keepsTo_pure _
  · exact .bind (keepsTo_lastPin h) fun _ => keepsTo_pure _
  · simp only [pinJSON, directive]
    split
    · exact keepsTo_pure _
    · exact .bind (h .listPins) fun _ => .bind (keepsTo_demand _ _) fun _ => keepsTo_pure _
  · exact .bind (h .freshNumber) fun _ => keepsTo_pure _
  · simp only [getVariable, directive]
    split
    · exact keepsTo_pure _
    · exact .bind (.bind (Variables.keepsTo_load h) fun _ => keepsTo_pure _) fun _ => keepsTo_pure _

/-! Deferrals, prompts and commands -/

lemma keepsTo_delay (m : Occurrence) (context : Context) (reentry : Option (Reentry σ)) :
    ((delay services).handler m context reentry).KeepsTo R := by
  simp only [delay, directive]
  split
  · exact keepsTo_pure _
  · refine .bind (keepsTo_ofExcept _) fun _ => .bind (h .now) fun _ => ?_
    refine .bind (keepsTo_demand _ _) fun _ => .bind (Schedule.keepsTo_schedule h _ _ _) fun _ => ?_
    split
    · exact .bind (h (.showToast ‹_› _ _)) fun _ => keepsTo_pure _
    · exact keepsTo_pure _

lemma keepsTo_attempt {completion : Completion σ} (hcompletion : completion ∈ services.completion)
    (model : Option String) (creativity : Number.Binary64) (attempts : Nat) (prompt : String) :
    Pinboard.KeepsTo R (attempt completion model creativity attempts prompt) := by
  induction attempts generalizing prompt with
  | zero => exact Pinboard.keepsTo_pure _
  | succ attempts ih =>
    refine .bind (h (.complete hcompletion prompt model creativity)) fun result => ?_
    cases result with
    | ok response => exact Pinboard.keepsTo_pure _
    | error fault => exact ih (shortened prompt)

lemma keepsTo_ai (m : Occurrence) (context : Context) (reentry : Option (Reentry σ)) :
    ((ai services).handler m context reentry).KeepsTo R := by
  simp only [ai, directive]
  split
  · exact keepsTo_pure _
  · refine .demand_bind fun completion hcompletion => .bind (keepsTo_ofExcept _) fun _ => ?_
    refine .bind (keepsTo_attempt h hcompletion _ _ _ _).total fun response => ?_
    cases response with
    | some response => exact keepsTo_pure _
    | none => exact keepsTo_throw _

lemma keepsTo_shell (m : Occurrence) (context : Context) (reentry : Option (Reentry σ)) :
    ((shell services).handler m context reentry).KeepsTo R := by
  simp only [shell, directive]
  split
  · exact keepsTo_pure _
  · exact .demand_bind fun _ hp => .bind (h (.runShell hp _)) fun _ => keepsTo_pure _

lemma keepsTo_setVariable (m : Occurrence) (context : Context) (reentry : Option (Reentry σ)) :
    ((setVariable services).handler m context reentry).KeepsTo R := by
  simp only [setVariable, directive]
  split
  · split
    · exact .bind (.bind (Variables.keepsTo_load h) fun _ => h (.setValue _ _)) fun _ =>
        keepsTo_pure _
    · exact keepsTo_pure _
  · exact keepsTo_pure _

/-- A change of the variables that is made only if there is something to change. -/
lemma keepsTo_changed (found : List Variable → Bool) (change : List Variable → List Variable) :
    (Variables.load services.storage >>= fun vars =>
      if found vars then
        (Variables.save services.storage (change vars) >>= fun _ => pure true)
      else pure false).KeepsTo R := by
  refine .bind (Variables.keepsTo_load h) fun vars => ?_
  split
  · exact .bind (h (.setValue _ _)) fun _ => keepsTo_pure _
  · exact keepsTo_pure _

lemma keepsTo_resetVariable (m : Occurrence) (context : Context) (reentry : Option (Reentry σ)) :
    ((resetVariable services).handler m context reentry).KeepsTo R := by
  simp only [resetVariable, directive]
  split
  · exact .bind (keepsTo_changed h _ _) fun _ => keepsTo_pure _
  · exact keepsTo_pure _

lemma keepsTo_deleteVariable (m : Occurrence) (context : Context) (reentry : Option (Reentry σ)) :
    ((deleteVariable services).handler m context reentry).KeepsTo R := by
  simp only [deleteVariable, directive]
  split
  · exact .bind (keepsTo_changed h _ _) fun _ => keepsTo_pure _
  · exact keepsTo_pure _

end

/-! ## Launches and scripts -/

section

variable (h : services.KeepsTo R)
  (hrecord : ∀ p elapsed, (Launch.recordUse services p elapsed).KeepsTo R) {re : Reentry σ}
  (hre : re.KeepsTo R)
include h hrecord hre

lemma keepsTo_openNested (context : Context) (p : Pin) :
    (openNested services re context p).KeepsTo R :=
  .bind (Launch.keepsTo_openPin h hre.resolve hrecord p none [] _) fun _ => keepsTo_pure _

lemma keepsTo_openEach (context : Context) (ps : List Pin) :
    (openEach services re context ps).KeepsTo R := by
  induction ps with
  | nil => exact keepsTo_pure _
  | cons p ps ih => exact .bind (keepsTo_openNested h hrecord hre context p) fun _ => ih

lemma keepsTo_launchPin (m : Occurrence) (context : Context) :
    ((launchPin services).handler m context (some re)).KeepsTo R := by
  simp only [launchPin, directive]
  split <;> refine .bind ?_ fun found => ?_
  · exact keepsTo_pure _
  rotate_left
  · exact keepsTo_findPin h _
  all_goals
    cases found with
    | none => exact keepsTo_pure _
    | some p => exact .bind (keepsTo_openNested h hrecord hre context p) fun _ => keepsTo_pure _

lemma keepsTo_launchGroup (m : Occurrence) (context : Context) :
    ((launchGroup services).handler m context (some re)).KeepsTo R := by
  simp only [launchGroup, directive]
  split <;> refine .bind ?_ fun found => ?_
  · exact keepsTo_pure _
  rotate_left
  · exact keepsTo_findGroup h _
  all_goals
    cases found with
    | none => exact keepsTo_pure _
    | some g =>
      refine .bind (h .listPins) fun pins => ?_
      exact .bind (keepsTo_openEach h hrecord hre context _) fun _ => keepsTo_pure _

lemma keepsTo_effects : ∀ d ∈ effects services, ∀ (m : Occurrence) (context : Context),
    (d.handler m context (some re)).KeepsTo R := by
  simp only [effects, List.forall_mem_cons]
  refine ⟨?_, ?_, ?_, ?_, ?_, ?_, ?_, ?_, ?_, ?_, ?_, by simp⟩
  all_goals intro m context
  · exact keepsTo_delay h m context (some re)
  · exact keepsTo_ai h m context (some re)
  · exact keepsTo_shell h m context (some re)
  · exact keepsTo_launchPin h hrecord hre m context
  · exact keepsTo_launchGroup h hrecord hre m context
  · exact keepsTo_setVariable h m context (some re)
  · exact keepsTo_resetVariable h m context (some re)
  · exact keepsTo_deleteVariable h m context (some re)
  · exact .demand_bind fun _ hp => .bind (h (.setClipboard hp _)) fun _ => keepsTo_pure _
  · exact .demand_bind fun _ hp => .bind (h (.paste hp _)) fun _ => keepsTo_pure _
  · simp only [ignore, directive]
    split
    · exact .bind (hre.resolve _ _) fun _ => keepsTo_pure _
    · exact keepsTo_pure _

omit hrecord in
lemma keepsTo_script (m : Occurrence) (context : Context) :
    ((script services).handler m context (some re)).KeepsTo R := by
  have hcall : ∀ name args named,
      ((Pinboard.Script.Sandbox.ofContext re context none).call name args named).KeepsTo R := by
    intro name args named
    simp only [Pinboard.Script.Sandbox.ofContext]
    split
    · exact hre.invoke _ _ context
    · exact keepsTo_throw _
  simp only [script, directive]
  split
  · exact keepsTo_pure _
  · split
    · exact .demand_bind fun _ hp => .bind (h (.runInBrowser hp _ _)) fun _ => keepsTo_pure _
    · refine .demand_bind fun way hway => ?_
      obtain rfl := Option.some.inj hway
      refine .bind (Pinboard.Script.Sandbox.keepsTo_run hcall _).total fun result => ?_
      unfold scriptResult
      split
      · exact keepsTo_pure _
      · exact keepsTo_pure _
      · exact keepsTo_pure _
      · exact keepsTo_pure _
      · exact keepsTo_throw _

end

/-- The built-in directives that change pins or groups, and the record of a use, keep to the
relation. -/
structure ChangesKeepTo (R : σ → σ → Prop) (services : Services σ) : Prop where
  createPin : ∀ m context reentry, ((createPin services).handler m context reentry).KeepsTo R
  deletePin : ∀ m context reentry, ((deletePin services).handler m context reentry).KeepsTo R
  movePin : ∀ m context reentry, ((movePin services).handler m context reentry).KeepsTo R
  recordUse : ∀ p elapsed, (Launch.recordUse services p elapsed).KeepsTo R

lemma keepsTo_rules (h : services.KeepsTo R) : ∀ d ∈ directives services, ∀ rule ∈ d.rules,
    ∀ text context, (rule.check text context).KeepsTo R := by
  have hrules : (directives services).flatMap (·.rules) = [minRecentApplications services 2] := rfl
  intro d hd rule hrule text context
  have hmem : rule ∈ (directives services).flatMap (·.rules) := List.mem_flatMap.mpr ⟨d, hd, hrule⟩
  rw [hrules] at hmem
  obtain rfl := List.mem_singleton.mp hmem
  exact .bind (RecentApps.keepsTo_load h) fun _ => keepsTo_pure _

lemma keepsTo_interaction (h : services.KeepsTo R) (hchanges : ChangesKeepTo R services) :
    ∀ d ∈ interaction services, ∀ (m : Occurrence) (context : Context)
      (reentry : Option (Reentry σ)), (d.handler m context reentry).KeepsTo R := by
  simp only [interaction, List.forall_mem_cons]
  refine ⟨?_, ?_, ?_, ?_, ?_, hchanges.createPin, hchanges.deletePin, hchanges.movePin, by simp⟩
  all_goals intro m context reentry
  · exact .demand_bind fun _ hn => .bind (h (.showAlert hn _ _)) fun _ => keepsTo_pure _
  · refine .demand_bind fun _ hn => ?_
    dsimp only
    split
    · exact .bind (h (.prompt hn _ _ _)) fun _ => keepsTo_pure _
    · exact .bind (h (.showAlert hn _ _)) fun _ => keepsTo_pure _
  · exact .demand_bind fun _ hn => .bind (h (.showToast hn _ _)) fun _ => keepsTo_pure _
  · exact .demand_bind fun _ hp => .bind (h (.speak hp _ _)) fun _ => keepsTo_pure _
  · exact .demand_bind fun _ hn => .bind (h (.prompt hn _ _ _)) fun _ => keepsTo_pure _

/-- Every built-in directive keeps to a relation that the services do, if the changes of pins and
groups and the way back do as well. -/
theorem keepsTo_of_mem (h : services.KeepsTo R) (hchanges : ChangesKeepTo R services)
    {re : Reentry σ} (hre : re.KeepsTo R) {d : Directive σ} (hd : d ∈ directives services) :
    d.KeepsTo R (some re) := by
  refine ⟨keepsTo_rules h d hd, fun m context => ?_⟩
  simp only [directives, List.mem_append, List.mem_singleton] at hd
  rcases hd with (((hd | hd) | hd) | hd) | rfl
  · exact keepsTo_ambient h d hd m context (some re)
  · exact keepsTo_stored h d hd m context (some re)
  · exact keepsTo_effects h hchanges.recordUse hre d hd m context
  · exact keepsTo_interaction h hchanges d hd m context (some re)
  · exact keepsTo_script h hre m context

end Builtin

end Pinboard
