import Pinboard.Builtin.Catalogue
import Pinboard.Proofs.Action
import Pinboard.Proofs.Builtin.Deferral
import Pinboard.Proofs.Resolution.Constants
import Pinboard.Proofs.Resolution.Settled
import Pinboard.Proofs.Schedule.Journal

/-!
# Readings of the host

A built-in directive remembers a value under no name but its own. The directives that read from the
host remember whatever they read, so one reading serves a whole resolution. They also remember what
they read for an occurrence with a body or parameters, and from then on that is what is served.
-/
namespace Pinboard

open Markup

variable {σ : Type}

namespace Action

variable {α β : Type}

/-- The action always ends with a value, and the value has a property. -/
def Returns (x : Action σ α) (P : α → Prop) : Prop := ∀ w, ∃ a w', x.run.run w = (.ok a, w') ∧ P a

lemma returns_pure {P : α → Prop} {a : α} (h : P a) : Returns (pure a : Action σ α) P :=
  fun w => ⟨a, w, rfl, h⟩

lemma Returns.mono {x : Action σ α} {P Q : α → Prop} (hx : Returns x P) (h : ∀ a, P a → Q a) :
    Returns x Q := by
  intro w
  obtain ⟨a, w', hrun, ha⟩ := hx w
  exact ⟨a, w', hrun, h a ha⟩

lemma Returns.bind {x : Action σ α} {f : α → Action σ β} {P : α → Prop} {Q : β → Prop}
    (hx : Returns x P) (hf : ∀ a, P a → Returns (f a) Q) : Returns (x >>= f) Q := by
  intro w
  obtain ⟨a, w₁, hrun, ha⟩ := hx w
  obtain ⟨b, w₂, hrun', hb⟩ := hf a ha w₁
  exact ⟨b, w₂, (run_bind_ok hrun).trans hrun', hb⟩

end Action

/-- The readings that make up the ambient directives never fail. -/
structure Platform.Readable (p : Platform σ) : Prop where
  clipboard : p.clipboard.Returns fun _ => True
  selectedText : p.selectedText.Returns fun _ => True
  application : p.application.Returns fun _ => True
  directory : p.directory.Returns fun _ => True
  files : p.files.Returns fun _ => True
  tab : p.tab.Returns fun _ => True
  track : p.track.Returns fun _ => True

namespace Builtin

variable (services : Services σ)

/-! ## Names of outputs -/

/-- The reply remembers nothing but values under this name. -/
def OutputsUnder (name : String) (reply : Reply) : Prop := ∀ o ∈ reply.outputs, o.1 = name

@[simp] lemma outputsUnder_value (name : String) (v : Json) : OutputsUnder name (.value v) :=
  fun o ho => by cases ho

@[simp] lemma outputsUnder_ofText (name text : String) : OutputsUnder name (.ofText text) :=
  outputsUnder_value name (.str text)

@[simp] lemma outputsUnder_nothing (name : String) : OutputsUnder name Reply.nothing :=
  outputsUnder_ofText name ""

@[simp] lemma outputsUnder_remembered (name value : String) :
    OutputsUnder name (remembered name value) := by
  simp [OutputsUnder, remembered, Reply.outputs]

@[simp] lemma outputsUnder_rememberedUnlessShaped (m : Occurrence) (name value : String) :
    OutputsUnder name (rememberedUnlessShaped m name value) := by
  intro o ho
  simp only [rememberedUnlessShaped, Reply.outputs] at ho
  split at ho
  · rw [List.mem_singleton.mp ho]
  · cases ho

/-- A directive that remembers values under its own name only. -/
def OutputsOwn (d : Directive σ) : Prop :=
  ∀ m context reentry, (d.handler m context reentry).Yields (OutputsUnder d.name)

lemma OutputsOwn.of_replies {d : Directive σ} (h : OutputsOwn d) {reentry : Option (Reentry σ)}
    {reply : Reply} (hreply : d.Replies reentry reply) : OutputsUnder d.name reply := by
  obtain ⟨m, context, w, rfl⟩ := hreply
  exact (h m context reentry).run_orElse (outputsUnder_nothing d.name) w

section Families

open Action

lemma yields_nothing {name : String} : (pure Reply.nothing : Action σ Reply).Yields
    (OutputsUnder name) := yields_pure (outputsUnder_nothing name)

lemma yields_ofText {name : String} (text : String) : (pure (.ofText text) : Action σ Reply).Yields
    (OutputsUnder name) := yields_pure (outputsUnder_ofText name text)

/-- The directives that report what the platform shows. -/
def readings : List (Directive σ) :=
  [clipboardText services, selectedText services, currentAppName services,
    currentAppPath services, currentDirectory services, currentURL services,
    currentTabName services, selectedFiles services, currentTrack services]

lemma outputsOwn_readings : ∀ d ∈ readings services, OutputsOwn d := by
  intro d hd m context reentry
  fin_cases hd <;>
    exact yields_bind fun _ => yields_bind fun _ => yields_pure (outputsUnder_remembered _ _)

lemma ambient_eq : ambient services = readings services ++
    [date services, time services, day services, timezone services, user services,
      homedir services, hostname services, monthCalendar services] := rfl

lemma outputsOwn_ambient : ∀ d ∈ ambient services, OutputsOwn d := by
  rw [ambient_eq, List.forall_mem_append]
  refine ⟨outputsOwn_readings services, ?_⟩
  have hnow : ∀ {name : String} (f : Time.Timestamp → Reply), (∀ now, OutputsUnder name (f now)) →
      (services.host.now >>= fun now => pure (f now)).Yields (OutputsUnder name) :=
    fun f hf => yields_bind fun now => yields_pure (hf now)
  simp only [List.forall_mem_cons]
  refine ⟨?_, ?_, ?_, ?_, ?_, ?_, ?_, ?_, by simp⟩ <;> intro m _ _
  · exact hnow _ fun _ => outputsUnder_rememberedUnlessShaped m _ _
  · exact hnow _ fun _ => outputsUnder_rememberedUnlessShaped m _ _
  · exact hnow _ fun _ => outputsUnder_remembered _ _
  · exact yields_pure (outputsUnder_remembered _ _)
  · exact yields_pure (outputsUnder_remembered _ _)
  · exact yields_pure (outputsUnder_remembered _ _)
  · exact yields_pure (outputsUnder_remembered _ _)
  · exact hnow _ fun _ => outputsUnder_remembered _ _

lemma outputsOwn_stored : ∀ d ∈ stored services, OutputsOwn d := by
  simp only [stored, List.forall_mem_cons]
  refine ⟨?_, ?_, ?_, ?_, ?_, ?_, ?_, ?_, ?_, ?_, ?_, ?_, ?_, by simp⟩ <;> intro m context _
  · exact yields_ofText _
  · exact yields_ofText _
  · exact yields_bind fun _ => yields_pure (outputsUnder_rememberedUnlessShaped m _ _)
  · exact yields_bind fun _ => yields_pure (outputsUnder_rememberedUnlessShaped m _ _)
  · exact yields_bind fun _ => yields_pure (outputsUnder_rememberedUnlessShaped m _ _)
  · exact yields_bind fun _ => yields_pure (outputsUnder_rememberedUnlessShaped m _ _)
  · exact yields_bind fun _ => yields_pure (outputsUnder_rememberedUnlessShaped m _ _)
  · exact yields_bind fun _ => yields_bind fun _ => yields_pure (outputsUnder_remembered _ _)
  · exact yields_bind fun _ => yields_pure (outputsUnder_remembered _ _)
  · exact yields_bind fun _ => yields_pure (outputsUnder_remembered _ _)
  · simp only [pinJSON, directive]
    split
    · exact yields_nothing
    · exact yields_bind fun _ => yields_bind fun _ => yields_ofText _
  · exact yields_bind fun _ => yields_ofText _
  · simp only [getVariable, directive]
    split
    · exact yields_nothing
    · exact yields_bind fun _ => yields_ofText _

lemma yields_of_only {name : String} {x : Action σ Reply} (h : Only x Reply.nothing) :
    x.Yields (OutputsUnder name) := by
  intro w reply hreply
  rw [h w reply hreply]
  exact outputsUnder_nothing name

lemma outputsOwn_effects : ∀ d ∈ effects services, OutputsOwn d := by
  simp only [effects, List.forall_mem_cons]
  refine ⟨?_, ?_, ?_, ?_, ?_, ?_, ?_, ?_, ?_, ?_, ?_, by simp⟩ <;> intro m context reentry
  · exact yields_of_only (only_delay services context reentry m)
  · simp only [ai, directive]
    split
    · exact yields_nothing
    · refine yields_bind fun _ => yields_bind fun _ => yields_bind fun response => ?_
      cases response with
      | some text => exact yields_ofText text
      | none => exact yields_throw _
  · simp only [shell, directive]
    split
    · exact yields_nothing
    · exact yields_bind fun _ => yields_bind fun _ => yields_ofText _
  · simp only [launchPin, directive]
    split <;> refine yields_bind fun _ => ?_ <;> split
    all_goals first | exact yields_bind fun _ => yields_nothing | exact yields_nothing
  · simp only [launchGroup, directive]
    split <;> refine yields_bind fun _ => ?_ <;> split
    all_goals first
      | exact yields_bind fun _ => yields_bind fun _ => yields_nothing
      | exact yields_nothing
  · simp only [setVariable, directive]
    split
    · split
      · exact yields_bind fun _ => yields_nothing
      · exact yields_nothing
    · exact yields_nothing
  · simp only [resetVariable, directive]
    split
    · exact yields_bind fun _ => yields_nothing
    · exact yields_nothing
  · simp only [deleteVariable, directive]
    split
    · exact yields_bind fun _ => yields_nothing
    · exact yields_nothing
  · exact yields_bind fun _ => yields_bind fun _ => yields_nothing
  · exact yields_bind fun _ => yields_bind fun _ => yields_nothing
  · simp only [ignore, directive]
    split
    · split
      · exact yields_bind fun _ => yields_nothing
      · exact yields_nothing
    · exact yields_nothing

lemma yields_removal {name : String} (p : Pin) (allowed : Bool) :
    (if allowed = true then do
        services.pins.remove [p]
        pure Reply.nothing
      else pure Reply.nothing : Action σ Reply).Yields (OutputsUnder name) := by
  split
  · exact yields_bind fun _ => yields_nothing
  · exact yields_nothing

lemma outputsOwn_interaction : ∀ d ∈ interaction services, OutputsOwn d := by
  simp only [interaction, List.forall_mem_cons]
  refine ⟨?_, ?_, ?_, ?_, ?_, ?_, ?_, ?_, by simp⟩ <;> intro m _ _
  · exact yields_bind fun _ => yields_bind fun _ => yields_nothing
  · simp only [dialog, directive]
    refine yields_bind fun _ => ?_
    split
    · exact yields_bind fun _ => yields_ofText _
    · exact yields_bind fun _ => yields_nothing
  · exact yields_bind fun _ => yields_bind fun _ => yields_nothing
  · exact yields_bind fun _ => yields_bind fun _ => yields_nothing
  · exact yields_bind fun _ => yields_bind fun _ => yields_ofText _
  · simp only [createPin, directive]
    split
    · exact yields_nothing
    · exact yields_bind fun _ => yields_bind fun _ => yields_bind fun _ => yields_nothing
  · simp only [deletePin, directive]
    split <;> refine yields_bind fun _ => ?_ <;> split
    · exact yields_nothing
    · exact yields_bind fun allowed => yields_removal services _ allowed
    · exact yields_nothing
    · exact yields_bind fun allowed => yields_removal services _ allowed
  · simp only [movePin, directive]
    split
    · split
      · refine yields_bind fun found => ?_
        cases found with
        | none => exact yields_nothing
        | some p => exact yields_bind fun _ => yields_bind fun _ => yields_nothing
      · exact yields_nothing
    · exact yields_nothing

lemma outputsOwn_script : OutputsOwn (script services) := by
  intro m context reentry
  simp only [script, directive]
  split
  · exact yields_nothing
  · split
    · exact yields_bind fun _ => yields_bind fun _ => yields_pure (outputsUnder_value _ _)
    · refine yields_bind fun _ => yields_bind fun result => ?_
      unfold scriptResult
      split
      · exact yields_ofText _
      · exact yields_nothing
      · exact yields_nothing
      · exact yields_nothing
      · exact yields_throw _

theorem outputsOwn_of_mem {d : Directive σ} (hd : d ∈ directives services) : OutputsOwn d := by
  simp only [directives, List.mem_append, List.mem_singleton] at hd
  rcases hd with (((hd | hd) | hd) | hd) | rfl
  · exact outputsOwn_ambient services d hd
  · exact outputsOwn_stored services d hd
  · exact outputsOwn_effects services d hd
  · exact outputsOwn_interaction services d hd
  · exact outputsOwn_script services

end Families

end Builtin

/-- In a resolution of built-in directives no value comes from another directive than the one of
its name. -/
lemma Resolver.Course.outputs_other {services : Services σ} {r : Resolver σ}
    (hr : r.registry.directives ⊆ Builtin.directives services) {reentry : Option (Reentry σ)}
    {text : String} {context : Context} {w w' : σ} {logs : List (List Entry)}
    {result : String × Context} (h : r.Course reentry text context w logs result w')
    {name : String} : ∀ entry ∈ logs.flatten, entry.1 ≠ name →
      ∀ o ∈ entry.2.outputs, o.1 ≠ name := by
  rintro ⟨other, t⟩ hmem hother o ho
  cases t with
  | refused | known => cases ho
  | handled m reply =>
    obtain ⟨d, hd, rfl, hreply⟩ := h.explains.replied other m reply hmem
    have hown := Builtin.outputsOwn_of_mem services (hr (Registry.mem_ordered.mp hd))
    rw [hown.of_replies hreply o ho]
    exact hother

namespace Builtin

/-! ## Readings -/

section Readings

open Action

variable {services : Services σ} {p : Platform σ} {d : Directive σ}

/-- A reading that never fails is remembered under the name of the directive. -/
lemma returns_reading (hplatform : services.platform = some p) (name : String)
    {read : Platform σ → Action σ String} {P : String → Prop} (hread : (read p).Returns P) :
    (do let platform ← services.needPlatform
        let value ← read platform
        pure (remembered name value) : Action σ Reply).Returns
      fun reply => ∃ value, reply = remembered name value ∧ P value := by
  have hneeded : services.needPlatform.Returns (· = p) := fun w => ⟨p, w, by
    rw [Services.needPlatform, hplatform]
    rfl, rfl⟩
  refine hneeded.bind fun _ hsame => ?_
  subst hsame
  exact hread.bind fun value hvalue => returns_pure ⟨value, rfl, hvalue⟩

lemma returns_of_mem_readings (hplatform : services.platform = some p) (hp : p.Readable)
    (hd : d ∈ readings services) (m : Occurrence) (context : Context)
    (reentry : Option (Reentry σ)) : (d.handler m context reentry).Returns (Remembers d.name) := by
  have hshow : ∀ {α : Type} {x : Action σ α} (f : α → String), x.Returns (fun _ => True) →
      (do pure (f (← x)) : Action σ String).Returns fun _ => True :=
    fun f hx => hx.bind fun _ _ => returns_pure trivial
  have hreading : ∀ (name : String) {read : Platform σ → Action σ String},
      (read p).Returns (fun _ => True) →
      (do let platform ← services.needPlatform
          let value ← read platform
          pure (remembered name value) : Action σ Reply).Returns (Remembers name) :=
    fun name _ hread => (returns_reading hplatform name hread).mono
      fun _ ⟨value, hreply, _⟩ => ⟨value, hreply⟩
  simp only [readings, List.mem_cons, List.not_mem_nil, or_false] at hd
  rcases hd with rfl | rfl | rfl | rfl | rfl | rfl | rfl | rfl | rfl
  · exact hreading _ (hshow _ hp.clipboard)
  · exact hreading _ (hshow _ hp.selectedText)
  · exact hreading _ (hshow _ hp.application)
  · exact hreading _ (hshow _ hp.application)
  · exact hreading _ (hshow _ hp.directory)
  · exact hreading _ (hshow _ hp.tab)
  · exact hreading _ (hshow _ hp.tab)
  · exact hreading _ (hshow _ hp.files)
  · exact hreading _ (hshow _ hp.track)

/-- Whatever a reading replies is remembered. -/
lemma remembers_of_replies (hplatform : services.platform = some p) (hp : p.Readable)
    (hd : d ∈ readings services) {reentry : Option (Reentry σ)} {reply : Reply}
    (hreply : d.Replies reentry reply) : Remembers d.name reply := by
  obtain ⟨m, context, w, rfl⟩ := hreply
  obtain ⟨reply, w', hrun, hreply⟩ := returns_of_mem_readings hplatform hp hd m context reentry w
  have hsame : ((d.run m context reentry).run w) = (reply, w') := run_orElse_ok hrun
  rwa [hsame]

end Readings

/-- In one sweep the handler of a constant directive runs once at most for each text, and equal texts
are replaced by equal results unless it runs for an occurrence with a body or parameters in between.
Once the context has a value under its name, it does not run for any other. A reading of the host
that runs for no such occurrence gives one value for a whole resolution of built-in directives: the
one that the context came with, else what was read first. -/
theorem resolveIn_constant {r : Resolver σ} {d : Directive σ} (hd : d ∈ r.registry.directives)
    (hconstant : d.constant = true) (reentry : Option (Reentry σ)) (text : String)
    (context : Context) (w : σ) :
    ∃ logs result w', r.Course reentry text context w logs result w' ∧
      (r.resolveIn reentry text context).run w = (result, w') ∧
      (∀ log ∈ logs, Consistent (turnsOf d.name log)) ∧
      (∀ earlier m reply later, logs.flatten = earlier ++ (d.name, .handled m reply) :: later →
        ((valuesAfter context.values earlier).get? d.name).isSome = true → ¬m.IsBare) ∧
      ∀ services p, r.registry.directives ⊆ directives services → d ∈ readings services →
        services.platform = some p → p.Readable →
        (∀ m reply, (d.name, .handled m reply) ∈ logs.flatten → m.IsBare) →
        ∃ value, ReadsOnce d.name context.values logs.flatten value := by
  obtain ⟨logs, result, w', hcourse⟩ := Resolver.Course.total r reentry text context w
  obtain ⟨hconsistent, hserves⟩ := hcourse.consistent hd hconstant
  refine ⟨logs, result, w', hcourse, hcourse.resolveIn_eq, hconsistent, ?_, ?_⟩
  · intro earlier m reply later hlogs hsome hbare
    have hnone := (hserves.of_eq hlogs).unread m reply rfl hbare
    rw [List.nil_append] at hnone
    rw [hnone] at hsome
    cases hsome
  · intro services p hregistered hreading hplatform hp hbare
    refine exists_readsOnce hserves (fun m reply hmem => ⟨hbare m reply hmem, ?_⟩)
      (hcourse.outputs_other hregistered)
    exact remembers_of_replies hplatform hp hreading (hcourse.replies hd hmem)

/-! ## A clipboard that changes -/

/-- A platform whose clipboard is kept in the journal, without anything else to read. -/
def clipboardPlatform : Platform Journal where
  clipboard := do pure (((← get).get? "clipboard").bind Json.string?)
  selectedText := pure none
  application := pure none
  directory := pure none
  files := pure []
  tab := pure none
  track := pure none
  setClipboard := fun text => modify fun journal => ("clipboard", .str text) :: journal
  paste := fun _ => pure ()
  runShell := fun _ => pure ""
  openTarget := fun _ _ => pure ()
  speak := fun _ _ => pure ()
  runInBrowser := fun _ _ => pure none

lemma clipboardPlatform_readable : clipboardPlatform.Readable where
  clipboard w := ⟨_, w, rfl, trivial⟩
  selectedText := Action.returns_pure trivial
  application := Action.returns_pure trivial
  directory := Action.returns_pure trivial
  files := Action.returns_pure trivial
  tab := Action.returns_pure trivial
  track := Action.returns_pure trivial

def clipboardServices : Services Journal :=
  { Journal.servicesAt Journal.noon with platform := some clipboardPlatform }

/-- A journal with a text on the clipboard. -/
def onClipboard (text : String) : Journal := [("clipboard", .str text)]

def readThenCopy : Resolver Journal :=
  ⟨⟨[clipboardText clipboardServices, copy clipboardServices], rfl⟩, none⟩

/-- The clipboard is read, changed, and asked for again under another spelling. -/
def changedBetween : String :=
  "\x7b\x7bclipboard\x7d\x7d \x7b\x7bclip\x7b\x7bcopy:b\x7d\x7dboardText\x7d\x7d"

def clipboardAt (start : Nat) : Occurrence :=
  ⟨"\x7b\x7bclipboardText\x7d\x7d", start, start + 17, "clipboardText", [], [], none, none⟩

def firstRead : Turn :=
  .handled ⟨"\x7b\x7bclipboard\x7d\x7d", 0, 13, "clipboard", [], [], none, none⟩
    (remembered "clipboardText" "a")

def copied : Turn :=
  .handled ⟨"\x7b\x7bcopy:b\x7d\x7d", 8, 18, "copy", [], [], some "b", none⟩ Reply.nothing

def changedLogs : List (List Entry) :=
  [[("clipboardText", firstRead), ("copy", copied)],
    [("clipboardText", .known (clipboardAt 2) "a")]]

def rememberedContext (text : String) : Context :=
  bareContext.withOutputs [("clipboardText", text)]

lemma changedBetween_course : readThenCopy.Course none changedBetween bareContext
    (onClipboard "a") changedLogs ("a a", rememberedContext "a")
    (("clipboard", .str "b") :: onClipboard "a") := by
  let start : Progress := ⟨changedBetween.toList, bareContext, [], false⟩
  let read : Sweep := ⟨"a \x7b\x7bclip\x7b\x7bcopy:b\x7d\x7dboardText\x7d\x7d".toList,
    rememberedContext "a", 0, [("\x7b\x7bclipboard\x7d\x7d", "a")], 1⟩
  let joined : Sweep := ⟨"a \x7b\x7bclipboardText\x7d\x7d".toList, rememberedContext "a", 0, [], 1⟩
  let served : Sweep := ⟨"a a".toList, rememberedContext "a", 0, [], 1⟩
  let later : Sweep := ⟨"a a".toList, rememberedContext "a", 0, [], 0⟩
  let between : Progress := (start.after (clipboardText clipboardServices) read).after
    (copy clipboardServices) joined
  have hreading : Sweep.Loop (clipboardText clipboardServices) none 250
      ⟨start.text, start.context, 0, [], 0⟩ (onClipboard "a") [firstRead] read (onClipboard "a") :=
    .handled (by decide) rfl rfl rfl rfl (.absent (by decide) rfl)
  have hcopying : Sweep.Loop (copy clipboardServices) none 250
      ⟨read.text, read.context, 0, [], 0⟩ (onClipboard "a") [copied] joined
      (("clipboard", .str "b") :: onClipboard "a") :=
    .handled (by decide) rfl rfl rfl rfl (.absent (by decide) rfl)
  have hserving : Sweep.Loop (clipboardText clipboardServices) none 249
      ⟨joined.text, joined.context, 0, [], 0⟩ (("clipboard", .str "b") :: onClipboard "a")
      [.known (clipboardAt 2) "a"] served (("clipboard", .str "b") :: onClipboard "a") :=
    .known (by decide) rfl rfl (.absent (by decide) rfl)
  have hidle : Sweep.Loop (copy clipboardServices) none 249
      ⟨served.text, served.context, 0, [], 0⟩ (("clipboard", .str "b") :: onClipboard "a")
      [] later (("clipboard", .str "b") :: onClipboard "a") :=
    .absent (by decide) rfl
  have hfirst : Progress.Round 250 none
      [clipboardText clipboardServices, copy clipboardServices] start (onClipboard "a")
      ([firstRead].map ("clipboardText", ·) ++ ([copied].map ("copy", ·) ++ [])) between
      (("clipboard", .str "b") :: onClipboard "a") := .cons hreading (.cons hcopying .nil)
  have hsecond : Progress.Round 250 none
      [clipboardText clipboardServices, copy clipboardServices] { between with changed := false }
      (("clipboard", .str "b") :: onClipboard "a")
      ([Turn.known (clipboardAt 2) "a"].map ("clipboardText", ·) ++ ([].map ("copy", ·) ++ []))
      (({ between with changed := false }.after (clipboardText clipboardServices) served).after
        (copy clipboardServices) later)
      (("clipboard", .str "b") :: onClipboard "a") := .cons hserving (.cons hidle .nil)
  have hrounds : Progress.Rounds (readThenCopy.limitIn bareContext) none
      readThenCopy.registry.ordered start (onClipboard "a") changedLogs
      (({ between with changed := false }.after (clipboardText clipboardServices) served).after
        (copy clipboardServices) later)
      (("clipboard", .str "b") :: onClipboard "a") := .more hfirst rfl (.last hsecond rfl)
  exact .resolved rfl hrounds

/-- What was read first is given again after the clipboard changed. -/
theorem resolveIn_constant_clipboard :
    clipboardText clipboardServices ∈ readThenCopy.registry.directives ∧
    (clipboardText clipboardServices).constant = true ∧
    readThenCopy.registry.directives ⊆ directives clipboardServices ∧
    clipboardText clipboardServices ∈ readings clipboardServices ∧
    clipboardServices.platform = some clipboardPlatform ∧ clipboardPlatform.Readable ∧
    (readThenCopy.resolveIn none changedBetween bareContext).run (onClipboard "a") =
      (("a a", rememberedContext "a"), ("clipboard", .str "b") :: onClipboard "a") ∧
    ReadsOnce "clipboardText" [] changedLogs.flatten "a" := by
  have hsubset : readThenCopy.registry.directives ⊆ directives clipboardServices := by
    simp [readThenCopy, directives, ambient, effects]
  refine ⟨List.mem_cons_self, rfl, hsubset, List.mem_cons_self, rfl, clipboardPlatform_readable,
    changedBetween_course.resolveIn_eq, ?_⟩
  obtain ⟨logs, result, w', hcourse, -, -, -, hreads⟩ :=
    resolveIn_constant (r := readThenCopy) (d := clipboardText clipboardServices)
      List.mem_cons_self rfl none changedBetween bareContext (onClipboard "a")
  obtain ⟨rfl, -, -⟩ := hcourse.unique changedBetween_course
  obtain ⟨value, hvalue⟩ := hreads clipboardServices clipboardPlatform hsubset List.mem_cons_self
    rfl clipboardPlatform_readable fun m reply hmem => by
      have hturns : Turn.handled m reply ∈ turnsOf "clipboardText" changedLogs.flatten :=
        List.mem_filterMap.mpr ⟨_, hmem, if_pos rfl⟩
      rcases List.mem_cons.mp hturns with hfirst | hlater
      · cases hfirst
        exact ⟨rfl, rfl⟩
      · cases List.mem_singleton.mp hlater
  have hsame : "a" = value := hvalue.same firstRead _ _ List.mem_cons_self rfl
  exact hsame ▸ hvalue

def readOnly : Resolver Journal := ⟨⟨[clipboardText clipboardServices], rfl⟩, none⟩

/-- The clipboard is asked for twice, and in between with a body. -/
def shapedBetween : String :=
  "\x7b\x7bclipboardText\x7d\x7d \x7b\x7bclipboardText:x\x7d\x7d \x7b\x7bclipboardText\x7d\x7d"

def shapedTurns : List Turn :=
  [.known (clipboardAt 0) "snap",
    .handled ⟨"\x7b\x7bclipboardText:x\x7d\x7d", 5, 24, "clipboardText", [], [], some "x", none⟩
      (remembered "clipboardText" "live"),
    .known (clipboardAt 10) "live"]

lemma shapedBetween_course : readOnly.Course none shapedBetween (rememberedContext "snap")
    (onClipboard "live") [shapedTurns.map ("clipboardText", ·)]
    ("snap live live", rememberedContext "live") (onClipboard "live") := by
  let start : Progress := ⟨shapedBetween.toList, rememberedContext "snap", [], false⟩
  let swept : Sweep := ⟨"snap live live".toList, rememberedContext "live", 0,
    [("\x7b\x7bclipboardText:x\x7d\x7d", "live")], 3⟩
  have hsweep : Sweep.Loop (clipboardText clipboardServices) none 250
      ⟨start.text, start.context, 0, [], 0⟩ (onClipboard "live") shapedTurns swept
      (onClipboard "live") :=
    .known (by decide) rfl rfl (.handled (by decide) rfl rfl rfl rfl
      (.known (by decide) rfl rfl (.absent (by decide) rfl)))
  have hround : Progress.Round 250 none [clipboardText clipboardServices] start
      (onClipboard "live") (shapedTurns.map ("clipboardText", ·) ++ [])
      (start.after (clipboardText clipboardServices) swept) (onClipboard "live") :=
    .cons hsweep .nil
  have hrounds : Progress.Rounds (readOnly.limitIn (rememberedContext "snap")) none
      readOnly.registry.ordered start (onClipboard "live") [shapedTurns.map ("clipboardText", ·)]
      (start.after (clipboardText clipboardServices) swept) (onClipboard "live") :=
    .last hround rfl
  exact .resolved rfl hrounds

/-- An occurrence with a body replaces the value that the context had, so the text before it and the
same text after it are replaced by different ones. -/
theorem clipboardText_shapedBetween :
    clipboardText clipboardServices ∈ readOnly.registry.directives ∧
    (clipboardText clipboardServices).constant = true ∧
    (readOnly.resolveIn none shapedBetween (rememberedContext "snap")).run (onClipboard "live") =
      (("snap live live", rememberedContext "live"), onClipboard "live") ∧
    ∃ log, readOnly.Course none shapedBetween (rememberedContext "snap") (onClipboard "live") [log]
        ("snap live live", rememberedContext "live") (onClipboard "live") ∧
      ∃ t₁ ∈ turnsOf "clipboardText" log, ∃ t₂ ∈ turnsOf "clipboardText" log,
        t₁.replacement? = some (clipboardAt 0, "snap") ∧
        t₂.replacement? = some (clipboardAt 10, "live") ∧
        (clipboardAt 0).text = (clipboardAt 10).text := by
  refine ⟨List.mem_cons_self, rfl, shapedBetween_course.resolveIn_eq, _, shapedBetween_course, ?_⟩
  rw [turnsOf_map_self]
  have hlast : Turn.known (clipboardAt 10) "live" ∈ shapedTurns := by simp [shapedTurns]
  exact ⟨_, List.mem_cons_self, _, hlast, rfl, rfl, rfl⟩

end Builtin

end Pinboard
