import Pinboard.Proofs.Action
import Pinboard.Proofs.Launch.Desktop
import Pinboard.Proofs.Launch.Statistics
import Pinboard.Proofs.Store.Collections

/-!
# Failures while a pin is opened

Whatever fails while a pin is used is reported, and the use is counted after the report. Only a
report that fails itself ends the opening, and then nothing is counted.
-/
namespace Pinboard

open Time

variable {σ : Type}

/-- A pin after one more use. -/
def Pin.usedAt (p : Pin) (now : Timestamp) (average : Int) : Pin :=
  { p with lastOpened := some now, timesOpened := p.timesOpened + 1, averageTime := average }

lemma Pin.Counted.usedAt {p : Pin} (h : p.Counted) (now : Timestamp) {average : Int}
    (haverage : 0 ≤ average) (hreached : average ≤ longestTime) :
    (p.usedAt now average).Counted where
  times := Int.add_nonneg h.times Int.one_nonneg
  average := haverage
  reached := hreached

/-- Services with a store that works for pins and a clock that goes. No other service that an
opening calls reaches the pins. -/
structure Services.HoldsPins (services : Services σ) (pins : σ → List Pin) : Prop where
  list : ∀ w, ∃ w', services.pins.list.run.run w = (.ok (pins w), w') ∧ pins w' = pins w
  update : ∀ items w, ∃ w', (services.pins.update items).run.run w = (.ok (), w') ∧
    pins w' = Memory.update items (pins w)
  storage : ∀ key v, (services.storage.set key v).Leaves pins
  setClipboard : ∀ platform ∈ services.platform, ∀ text, (platform.setClipboard text).Leaves pins
  openTarget : ∀ platform ∈ services.platform, ∀ target application,
    (platform.openTarget target application).Leaves pins
  runShell : ∀ platform ∈ services.platform, ∀ command, (platform.runShell command).Leaves pins
  showToast : ∀ notifier ∈ services.notifier, ∀ title text,
    (notifier.showToast title text).Leaves pins
  showMessage : ∀ notifier ∈ services.notifier, ∀ text, (notifier.showMessage text).Leaves pins
  pathExists : ∀ path, (services.host.pathExists path).Leaves pins
  stopwatch : ∀ w, ∃ t w', services.host.stopwatch.run.run w = (.ok t, w') ∧ t ≤ longestTime ∧
    pins w' = pins w
  now : ∀ w, ∃ t w', services.host.now.run.run w = (.ok t, w') ∧ pins w' = pins w

namespace Launch

open Action

/-! ## The steps of an opening -/

/-- One use of a pin. The target is resolved, that of a fragment is not, and what comes of it is
handed over. -/
inductive Uses (services : Services σ) (resolve : String → Context → Action σ String) (p : Pin)
    (context : Context) : σ → String → σ → Except Fault Unit → σ → Prop
  | fragment {w w' : σ} {ended : Except Fault Unit} (hkind : p.fragment = true)
      (hcopy : (copyFragment services p).run.run w = (ended, w')) :
      Uses services resolve p context w "" w ended w'
  | target {w w₁ w' : σ} {text : String} {ended : Except Fault Unit} (hkind : p.fragment = false)
      (hresolve : (resolve (expandHome services.host.home p.target) context).run.run w =
        (.ok text, w₁))
      (hhand : (if !text.isEmpty then handOver services p text else pure ()).run.run w₁ =
        (ended, w')) :
      Uses services resolve p context w text w₁ ended w'

/-- The text that reports a failure. -/
def failureText (p : Pin) (fault : Fault) : String :=
  "Failed to open " ++ label p ++ ": " ++ fault.message

section Steps

variable {services : Services σ} {resolve : String → Context → Action σ String} {p : Pin}
  {context : Context} {w w₁ w₂ w₃ : σ} {text : String} {ended : Except Fault Unit}

lemma Uses.run_use (h : Uses services resolve p context w text w₁ ended w₂) :
    (use services resolve p context).run.run w = (ended.map fun _ => text, w₂) := by
  cases h with
  | fragment hkind hcopy =>
    rw [use, if_pos hkind]
    cases ended with
    | ok u => rw [run_bind_ok hcopy]; rfl
    | error fault => rw [run_bind_error hcopy]; rfl
  | target hkind hresolve hhand =>
    rw [use, if_neg (by simp [hkind]), run_bind_ok hresolve]
    dsimp only
    split at hhand
    · rw [if_pos ‹_›]
      cases ended with
      | ok u => rw [run_bind_ok hhand]; rfl
      | error fault => rw [run_bind_error hhand]; rfl
    · obtain ⟨rfl, rfl⟩ := Prod.mk.inj hhand
      rw [if_neg ‹_›]
      rfl

/-- A pin can be used if its target can be resolved. -/
lemma Uses.total (services : Services σ) (p : Pin) (context : Context) (w : σ)
    (hresolve : ∃ target w', (resolve (expandHome services.host.home p.target) context).run.run w =
      (.ok target, w')) :
    ∃ text w₁ ended w₂, Uses services resolve p context w text w₁ ended w₂ := by
  cases hkind : p.fragment with
  | true => exact ⟨_, _, _, _, .fragment hkind rfl⟩
  | false =>
    obtain ⟨target, w₁, hrun⟩ := hresolve
    exact ⟨_, _, _, _, .target hkind hrun rfl⟩

variable {environment : Option Environment} {extras : Fields Json} {depth t t' : Nat}
  {cause fault : Fault} (hdepth : depth ≤ services.settings.maxLaunchDepth)
  (hstart : services.host.stopwatch.run.run w = (.ok t, w₁))
include hdepth hstart

/-- The use of a pin that went well is recorded, and the target is given. -/
lemma run_openPin_used
    (huse : (use services resolve p (Context.assemble services.settings (some p) environment extras
      depth)).run.run w₁ = (.ok text, w₂))
    (hstop : services.host.stopwatch.run.run w₂ = (.ok t', w₃)) :
    (openPin services resolve p environment extras depth).run.run w =
      (.ok text, ((recordUse services p (t' - t)).run.run w₃).2) := by
  obtain ⟨a, hrecord⟩ := run_total_orElse (recordUse services p (t' - t)) () w₃
  rw [openPin, if_neg (by omega)]
  dsimp only
  rw [run_bind_ok hstart, run_bind_ok (run_total_outcome _ w₁), huse]
  dsimp only [pure_bind]
  rw [pure_bind, run_bind_ok hstop, run_bind_ok hrecord]
  rfl

/-- So is a use that failed, once the failure is reported. -/
lemma run_openPin_failed {w₄ : σ}
    (huse : (use services resolve p (Context.assemble services.settings (some p) environment extras
      depth)).run.run w₁ = (.error cause, w₂))
    (hreport : (report services p cause).run.run w₂ = (.ok (), w₃))
    (hstop : services.host.stopwatch.run.run w₃ = (.ok t', w₄)) :
    (openPin services resolve p environment extras depth).run.run w =
      (.ok "", ((recordUse services p (t' - t)).run.run w₄).2) := by
  obtain ⟨a, hrecord⟩ := run_total_orElse (recordUse services p (t' - t)) () w₄
  rw [openPin, if_neg (by omega)]
  dsimp only
  rw [run_bind_ok hstart, run_bind_ok (run_total_outcome _ w₁), huse]
  dsimp only
  rw [run_bind_ok hreport, pure_bind, run_bind_ok hstop, run_bind_ok hrecord]
  rfl

/-- A failure whose report fails ends the opening. -/
lemma run_openPin_unreported
    (huse : (use services resolve p (Context.assemble services.settings (some p) environment extras
      depth)).run.run w₁ = (.error cause, w₂))
    (hreport : (report services p cause).run.run w₂ = (.error fault, w₃)) :
    (openPin services resolve p environment extras depth).run.run w = (.error fault, w₃) := by
  rw [openPin, if_neg (by omega)]
  dsimp only
  rw [run_bind_ok hstart, run_bind_ok (run_total_outcome _ w₁), huse]
  exact run_bind_error hreport

end Steps

/-! ## What reaches the pins -/

section Pins

variable {services : Services σ} {pins : σ → List Pin} (hservices : services.HoldsPins pins)
include hservices

lemma leaves_handOver (p : Pin) (target : String) : (handOver services p target).Leaves pins := by
  refine .demand_bind fun platform hplatform => ?_
  split
  · refine .bind (hservices.pathExists target) fun there => ?_
    dsimp only
    split
    · exact leaves_throw _
    · exact .bind (hservices.openTarget platform hplatform _ _) fun _ => hservices.storage _ _
  · split
    · exact .bind (hservices.openTarget platform hplatform _ _) fun _ => hservices.storage _ _
    · exact .bind (hservices.runShell platform hplatform _) fun _ => hservices.storage _ _

lemma leaves_copyFragment (p : Pin) : (copyFragment services p).Leaves pins := by
  refine .demand_bind fun platform hplatform => ?_
  refine .bind (hservices.setClipboard platform hplatform _) fun _ => ?_
  dsimp only
  split
  · exact .bind (hservices.showToast _ ‹_› _ _) fun _ => hservices.storage _ _
  · exact hservices.storage _ _

lemma leaves_report (p : Pin) (fault : Fault) : (report services p fault).Leaves pins := by
  unfold report
  split
  · exact hservices.showMessage _ ‹_› _
  · exact leaves_pure _

/-- After the resolution nothing that belongs to the use of a pin reaches the pins. -/
lemma Uses.pins_eq {resolve : String → Context → Action σ String} {p : Pin} {context : Context}
    {w w₁ w₂ : σ} {text : String} {ended : Except Fault Unit}
    (h : Uses services resolve p context w text w₁ ended w₂) : pins w₂ = pins w₁ := by
  cases h with
  | fragment hkind hcopy => simpa [hcopy] using leaves_copyFragment hservices p w
  | target hkind hresolve hhand =>
    split at hhand
    · simpa [hhand] using leaves_handOver hservices p text w₁
    · rw [run_pure] at hhand
      exact congrArg pins (Prod.mk.inj hhand).2.symm

omit hservices in
/-- The record of a use is an update of the stored form. -/
lemma run_recordUse {p stored : Pin} {elapsed : Nat} {w w₁ w₂ : σ} {held : List Pin}
    {average : Int} {now : Timestamp} (hlist : services.pins.list.run.run w = (.ok held, w₁))
    (hstored : held.find? (fun q => q.id == p.id) = some stored)
    (haverage : averageAfter? stored.averageTime stored.timesOpened elapsed = some average)
    (hnow : services.host.now.run.run w₁ = (.ok now, w₂)) :
    (recordUse services p elapsed).run.run w =
      (services.pins.update [stored.usedAt now average]).run.run w₂ := by
  rw [recordUse, run_bind_ok hlist, hstored]
  dsimp only
  rw [haverage]
  dsimp only
  rw [run_bind_ok hnow]
  rfl

omit hservices in
lemma run_recordUse_gone {p : Pin} (elapsed : Nat) {w w₁ : σ} {held : List Pin}
    (hlist : services.pins.list.run.run w = (.ok held, w₁))
    (hgone : held.find? (fun q => q.id == p.id) = none) :
    (recordUse services p elapsed).run.run w = (.ok (), w₁) := by
  rw [recordUse, run_bind_ok hlist, hgone]
  rfl

/-- A use of a pin that is still stored changes its stored form only. -/
lemma recordUse_updates {p stored : Pin} {w : σ} {elapsed : Nat} {average : Int}
    (hstored : (pins w).find? (fun q => q.id == p.id) = some stored)
    (haverage : averageAfter? stored.averageTime stored.timesOpened elapsed = some average) :
    ∃ now, pins ((recordUse services p elapsed).run.run w).2 =
      Memory.update [stored.usedAt now average] (pins w) := by
  obtain ⟨w₁, hlist, hpins₁⟩ := hservices.list w
  obtain ⟨now, w₂, hnow, hpins₂⟩ := hservices.now w₁
  obtain ⟨w₃, hupdate, hpins₃⟩ := hservices.update [stored.usedAt now average] w₂
  refine ⟨now, ?_⟩
  rw [run_recordUse hlist hstored haverage hnow, hupdate, hpins₃, hpins₂, hpins₁]

/-- The use is counted there. -/
lemma recordUse_counts {p stored : Pin} {w : σ} {elapsed : Nat} (helapsed : elapsed ≤ longestTime)
    (hstored : (pins w).find? (fun q => q.id == p.id) = some stored) (hcounted : stored.Counted) :
    ∃ now average, (stored.usedAt now average).Counted ∧
      pins ((recordUse services p elapsed).run.run w).2 =
        Memory.update [stored.usedAt now average] (pins w) := by
  obtain ⟨average, haverage, hnonneg, hreached⟩ := averageAfter?_counted hcounted helapsed
  obtain ⟨now, hafter⟩ := recordUse_updates hservices hstored haverage
  exact ⟨now, average, hcounted.usedAt now hnonneg hreached, hafter⟩

end Pins

/-! ## Openings -/

/-- The first stored pin with an id has been counted once more. -/
def CountedOnce (id : String) (before after : List Pin) : Prop :=
  ∀ stored, before.find? (fun q => q.id == id) = some stored → stored.Counted →
    ∃ q, after.find? (fun q => q.id == id) = some q ∧ q.timesOpened = stored.timesOpened + 1

lemma find?_update {id : String} {pins : List Pin} {stored q : Pin} (hq : q.id = id)
    (hstored : pins.find? (fun q => q.id == id) = some stored) :
    (Memory.update [q] pins).find? (fun q => q.id == id) = some q := by
  have hkept : (fun s : Pin => (((Memory.latest? (Item.id s) [q]).getD s).id == id)) =
      fun s => s.id == id := by
    funext s
    by_cases hs : s.id = id
    · simp [Memory.latest?, Item.id, hs, hq]
    · simp [Memory.latest?, Item.id, hq, Ne.symm hs]
  have hid : stored.id = id := by simpa using List.find?_some hstored
  rw [Memory.update, List.find?_map]
  simp only [Function.comp_def]
  rw [hkept, hstored]
  simp [Memory.latest?, Item.id, hid, hq]

/-- Whoever is to hear of a failure can be told. -/
def Told (services : Services σ) (p : Pin) (ended : Except Fault Unit) (w : σ) : Prop :=
  ∀ fault, ended = .error fault → ∀ notifier ∈ services.notifier,
    ∃ w', (notifier.showMessage (failureText p fault)).run.run w = (.ok (), w')

lemma told_ok (services : Services σ) (p : Pin) (u : Unit) (w : σ) : Told services p (.ok u) w :=
  fun _ h => nomatch h

lemma told_error_iff {services : Services σ} {p : Pin} {cause : Fault} {w : σ} :
    Told services p (.error cause) w ↔
      ∃ w', (report services p cause).run.run w = (.ok (), w') := by
  have honly : ∀ fault, (.error cause : Except Fault Unit) = .error fault → fault = cause :=
    fun _ h => (Except.error.inj h).symm
  unfold report
  constructor
  · intro htold
    split
    · exact htold cause rfl _ ‹_›
    · exact ⟨w, rfl⟩
  · rintro ⟨w', hrun⟩ fault hfault notifier hnotifier
    rw [honly fault hfault]
    have hsome : services.notifier = some notifier := hnotifier
    rw [hsome] at hrun
    exact ⟨w', hrun⟩

/-- The record that ends an opening counts the use. -/
lemma countedOnce_recordUse {services : Services σ} {pins : σ → List Pin}
    (hservices : services.HoldsPins pins) (p : Pin) {w w' : σ} {t t' : Nat}
    (hstop : services.host.stopwatch.run.run w = (.ok t', w')) :
    CountedOnce p.id (pins w) (pins ((recordUse services p (t' - t)).run.run w').2) := by
  intro stored hstored hcounted
  obtain ⟨read, w₁, hread, hlongest, hpins⟩ := hservices.stopwatch w
  obtain ⟨hsame, rfl⟩ := Prod.mk.inj (hread.symm.trans hstop)
  have htime : t' - t ≤ longestTime := by
    have : read = t' := Except.ok.inj hsame
    omega
  rw [← hpins] at hstored
  obtain ⟨now, average, -, hafter⟩ := recordUse_counts hservices htime hstored hcounted
  have hid : stored.id = p.id := by simpa using List.find?_some hstored
  rw [hafter]
  exact ⟨stored.usedAt now average, find?_update hid hstored, rfl⟩

/-- An opening uses the pin once. If a failure of this can be told, or there is none, the opening
gives the resolved target, nothing for a failure, and the use is counted beyond all that the
resolution did to the pins. Otherwise the opening faults and nothing is counted. -/
theorem openPin_reports (services : Services σ) (resolve : String → Context → Action σ String)
    (p : Pin) (environment : Option Environment) (extras : Fields Json) {depth : Nat}
    (hdepth : depth ≤ services.settings.maxLaunchDepth)
    (hclock : ∀ w, ∃ t w', services.host.stopwatch.run.run w = (.ok t, w'))
    (hresolve : ∀ text context w, ∃ target w', (resolve text context).run.run w = (.ok target, w'))
    (w : σ) :
    ∃ t w₁ target w₂ ended w₃,
      services.host.stopwatch.run.run w = (.ok t, w₁) ∧
      Uses services resolve p (Context.assemble services.settings (some p) environment extras depth)
        w₁ target w₂ ended w₃ ∧
      ∃ result w', (openPin services resolve p environment extras depth).run.run w = (result, w') ∧
        (Told services p ended w₃ →
          result = .ok (match ended with | .ok () => target | .error _ => "") ∧
            ∀ pins, services.HoldsPins pins → CountedOnce p.id (pins w₂) (pins w')) ∧
        (¬Told services p ended w₃ →
          (∃ fault, result = .error fault) ∧
            ∀ pins, services.HoldsPins pins → pins w' = pins w₂) := by
  obtain ⟨t, w₁, hstart⟩ := hclock w
  obtain ⟨target, w₂, ended, w₃, huses⟩ := Uses.total services p
    (Context.assemble services.settings (some p) environment extras depth) w₁ (hresolve _ _ w₁)
  refine ⟨t, w₁, target, w₂, ended, w₃, hstart, huses, ?_⟩
  have huse := huses.run_use
  cases ended with
  | ok u =>
    obtain ⟨t', w₄, hstop⟩ := hclock w₃
    refine ⟨_, _, run_openPin_used hdepth hstart huse hstop, fun _ => ⟨rfl, ?_⟩,
      fun htold => absurd (told_ok services p u w₃) htold⟩
    intro pins hservices
    rw [← huses.pins_eq hservices]
    exact countedOnce_recordUse hservices p hstop
  | error cause =>
    cases hreport : (report services p cause).run.run w₃ with
    | mk reported w₄ =>
    have hpins : ∀ pins, services.HoldsPins pins → pins w₄ = pins w₂ := by
      intro pins hservices
      have hleft := leaves_report hservices p cause w₃
      rw [hreport] at hleft
      exact hleft.trans (huses.pins_eq hservices)
    cases reported with
    | ok u =>
      obtain ⟨t', w₅, hstop⟩ := hclock w₄
      refine ⟨_, _, run_openPin_failed hdepth hstart huse hreport hstop, fun _ => ⟨rfl, ?_⟩,
        fun htold => absurd (told_error_iff.mpr ⟨w₄, hreport⟩) htold⟩
      intro pins hservices
      rw [← hpins pins hservices]
      exact countedOnce_recordUse hservices p hstop
    | error fault =>
      refine ⟨_, _, run_openPin_unreported hdepth hstart huse hreport, fun htold => ?_,
        fun _ => ⟨⟨fault, rfl⟩, hpins⟩⟩
      obtain ⟨w', hsaid⟩ := told_error_iff.mp htold
      rw [hreport] at hsaid
      cases hsaid

/-- A desktop holds its pins. -/
lemma holdsPins_desktop (automated : Bool) (showMessage : String → Action Desktop Unit)
    (hshow : ∀ text, (showMessage text).Leaves Desktop.pins) :
    (Desktop.services automated showMessage).HoldsPins Desktop.pins where
  list w := ⟨w, rfl, rfl⟩
  update items w := ⟨_, rfl, rfl⟩
  storage key v w := rfl
  setClipboard platform hplatform text w := by
    cases automated <;> cases hplatform
    rfl
  openTarget platform hplatform target application w := by
    cases automated <;> cases hplatform
    rfl
  runShell platform hplatform command w := by
    cases automated <;> cases hplatform
    rfl
  showToast notifier hnotifier title text w := by
    cases hnotifier
    rfl
  showMessage notifier hnotifier text := by
    cases hnotifier
    exact hshow text
  pathExists path w := rfl
  stopwatch w := ⟨0, w, rfl, Nat.zero_le _, rfl⟩
  now w := ⟨Journal.nine, w, rfl, rfl⟩

/-- A pin that runs a command. -/
def commandPin : Pin := Desktop.pin "a" "x"

/-- Without a platform the command of a pin fails. The failure is told and the use is counted. -/
theorem openPin_reports_unautomated :
    (0 ≤ (Desktop.services false fun _ => pure ()).settings.maxLaunchDepth ∧
      (∀ w, ∃ t w', (Desktop.services false fun _ => pure ()).host.stopwatch.run.run w =
        (.ok t, w')) ∧
      (∀ text (_ : Context) w, ∃ target w', (pure text : Action Desktop String).run.run w =
        (.ok target, w')) ∧
      (Desktop.services false fun _ => pure ()).HoldsPins Desktop.pins) ∧
    ∃ desktop, (openPin (Desktop.services false fun _ => pure ()) (fun text _ => pure text)
        commandPin none [] 0).run.run (Desktop.ofPins [commandPin]) = (.ok "", desktop) ∧
      ∃ q, desktop.pins.find? (fun q => q.id == "a") = some q ∧ q.timesOpened = 1 := by
  have hclock : ∀ w, ∃ t w', (Desktop.services false fun _ => pure ()).host.stopwatch.run.run w =
      (.ok t, w') := fun w => ⟨0, w, rfl⟩
  have hresolve : ∀ text (_ : Context) w, ∃ target w',
      (pure text : Action Desktop String).run.run w = (.ok target, w') :=
    fun text _ w => ⟨text, w, rfl⟩
  have hholds := holdsPins_desktop false (fun _ => pure ()) fun _ => leaves_pure ()
  refine ⟨⟨Nat.zero_le _, hclock, hresolve, hholds⟩, ?_⟩
  obtain ⟨t, w₁, target, w₂, ended, w₃, hstart, huses, result, w', hrun, htold, -⟩ :=
    openPin_reports (Desktop.services false fun _ => pure ()) (fun text _ => pure text) commandPin
      none [] (Nat.zero_le _) hclock hresolve (Desktop.ofPins [commandPin])
  obtain ⟨-, rfl⟩ := Prod.mk.inj hstart
  cases huses with
  | fragment hkind => cases hkind
  | target hkind hresolved hhand =>
    obtain ⟨htext, rfl⟩ := Prod.mk.inj hresolved
    obtain rfl : "x" = target := Except.ok.inj htext
    obtain ⟨rfl, rfl⟩ := Prod.mk.inj hhand
    obtain ⟨hresult, hcounts⟩ := htold fun _ _ notifier hnotifier => by
      cases hnotifier
      exact ⟨_, rfl⟩
    refine ⟨w', hrun.trans (by rw [hresult]), ?_⟩
    exact hcounts Desktop.pins hholds commandPin rfl ⟨le_rfl, le_rfl, Int.natCast_nonneg _⟩

/-- Where the report of this failure is refused, the opening faults and counts nothing. -/
theorem openPin_faults_unheard :
    (openPin (Desktop.services false fun _ => Desktop.refuse "notifier.show_message")
        (fun text _ => pure text) commandPin none [] 0).run.run (Desktop.ofPins [commandPin]) =
      (.error (.refused "notifier.show_message"), Desktop.ofPins [commandPin]) :=
  rfl

end Launch

end Pinboard
