import Pinboard.Proofs.Launch.Failures

/-!
# What an opening leaves

If no service fails, all that is seen of an opening after the resolution is what was handed over,
the id of the pin that was opened last, and one more use of the pin in its stored form.
-/
namespace Pinboard

open Action

variable {σ : Type}

/-- What is seen of the stores and of the platform. -/
structure Ledger where
  pins : List Pin
  /-- What is stored as the id of the pin that was opened last. -/
  lastPin : Option Json
  handed : List Handing

/-- What is seen after a pin was handed over, if it was. -/
def Ledger.over (L : Ledger) (p : Pin) : Option Handing → Ledger
  | none => L
  | some given => { L with handed := L.handed ++ [given], lastPin := some (.str p.id) }

/-- A pin as if it had never been used. -/
def Pin.unused (p : Pin) : Pin := { p with lastOpened := none, timesOpened := 0, averageTime := 0 }

@[simp] lemma Pin.unused_unused (p : Pin) : p.unused.unused = p.unused := rfl

@[simp] lemma Pin.unused_usedAt (p : Pin) (now : Time.Timestamp) (average : Int) :
    (p.usedAt now average).unused = p.unused := rfl

/-- A pin with how often it was used. -/
def Pin.tally (p : Pin) : Pin × Int := (p.unused, p.timesOpened)

/-- A pin with how often it will have been used after some more uses of pins with some ids. -/
def Pin.tallyAfter (ids : List String) (p : Pin) : Pin × Int :=
  (p.unused, p.timesOpened + ids.count p.id)

/-- Services that do not fail. They do what they are called for and nothing else that is seen. -/
structure Services.Works (services : Services σ) (ledger : σ → Ledger) : Prop where
  list : ∀ w, services.pins.list.Ends ledger w (.ok (ledger w).pins) (ledger w)
  update : ∀ items w, (services.pins.update items).Ends ledger w (.ok ())
    { ledger w with pins := Memory.update items (ledger w).pins }
  storage : ∀ id w, (services.storage.set Stored.lastPinKey (.str id)).Ends ledger w (.ok ())
    { ledger w with lastPin := some (.str id) }
  automated : services.platform.isSome
  openTarget : ∀ platform ∈ services.platform, ∀ target application w,
    (platform.openTarget target application).Ends ledger w (.ok ())
      { ledger w with handed := (ledger w).handed ++ [.opened target application] }
  runShell : ∀ platform ∈ services.platform, ∀ command w, ∃ output,
    (platform.runShell command).Ends ledger w (.ok output)
      { ledger w with handed := (ledger w).handed ++ [.ran command] }
  showMessage : ∀ notifier ∈ services.notifier, ∀ text w,
    (notifier.showMessage text).Ends ledger w (.ok ()) (ledger w)
  pathExists : ∀ path w, ∃ there, (services.host.pathExists path).Ends ledger w (.ok there) (ledger w)
  stopwatch : ∀ w, ∃ t, t ≤ longestTime ∧
    services.host.stopwatch.Ends ledger w (.ok t) (ledger w)
  now : ∀ w, ∃ t, services.host.now.Ends ledger w (.ok t) (ledger w)

namespace Launch

/-- How a pin's resolved target is handed over. -/
def handing (p : Pin) (target : String) : Handing :=
  if isPath p.target then .opened (normalPath target) (applicationOf p)
  else if isUrl target then .opened target (applicationOf p)
  else .ran target

/-- What an opening of a pin hands over: nothing for an empty text and for a path to nothing. -/
inductive Delivers (p : Pin) (target : String) : Option Handing → Prop
  | empty (htarget : target.isEmpty = true) : Delivers p target none
  | missing (htarget : ¬target.isEmpty = true) (hpath : isPath p.target = true) :
      Delivers p target none
  | handed (htarget : ¬target.isEmpty = true) : Delivers p target (some (handing p target))

lemma Delivers.eq_some {p : Pin} {target : String} {handed : Option Handing}
    (h : Delivers p target handed) (htarget : target.isEmpty = false)
    (hpath : isPath p.target = false) : handed = some (handing p target) := by
  cases h with
  | empty hempty => simp [htarget] at hempty
  | missing _ hpath' => simp [hpath] at hpath'
  | handed _ => rfl

section Tallies

variable {pins : List Pin} {p stored : Pin}

/-- A use of one pin changes nothing but its own tally. -/
lemma tally_update (hids : (pins.map (·.id)).Nodup)
    (hstored : pins.find? (fun q => q.id == p.id) = some stored) (now : Time.Timestamp)
    (average : Int) :
    (Memory.update [stored.usedAt now average] pins).map Pin.tally =
      pins.map (Pin.tallyAfter [p.id]) := by
  have hid : stored.id = p.id := by simpa using List.find?_some hstored
  rw [Memory.update, List.map_map]
  refine List.map_congr_left fun q hq => ?_
  by_cases hsame : q.id = p.id
  · obtain rfl : q = stored :=
      List.inj_on_of_nodup_map hids hq (List.mem_of_find?_eq_some hstored) (hsame.trans hid.symm)
    simp [Memory.latest?, Item.id, Pin.usedAt, Pin.tally, Pin.tallyAfter, Pin.unused, hsame]
  · have hother : stored.id ≠ q.id := fun h => hsame (h.symm.trans hid)
    simp [Memory.latest?, Item.id, Pin.usedAt, Pin.tally, Pin.tallyAfter, hother, Ne.symm hsame]

lemma tally_gone (hgone : pins.find? (fun q => q.id == p.id) = none) :
    pins.map Pin.tally = pins.map (Pin.tallyAfter [p.id]) := by
  refine List.map_congr_left fun q hq => ?_
  have hother : p.id ≠ q.id := fun h => by simpa [h] using List.find?_eq_none.mp hgone q hq
  simp [Pin.tally, Pin.tallyAfter, hother]

lemma mem_update {q : Pin} (h : q ∈ Memory.update [stored] pins) : q = stored ∨ q ∈ pins := by
  obtain ⟨s, hs, rfl⟩ := List.mem_map.mp h
  by_cases hid : stored.id = s.id
  · exact .inl (by simp [Memory.latest?, Item.id, hid])
  · exact .inr (by simpa [Memory.latest?, Item.id, hid] using hs)

end Tallies

section Steps

variable {services : Services σ} {ledger : σ → Ledger} (hworks : services.Works ledger)
include hworks

/-- A target is handed over, unless it is a path to nothing. -/
lemma ends_handOver (p : Pin) (target : String) (w : σ) :
    (handOver services p target).Ends ledger w (.ok ())
        ((ledger w).over p (some (handing p target))) ∨
      isPath p.target = true ∧
        (handOver services p target).Ends ledger w (.error .fileMissing) (ledger w) := by
  obtain ⟨platform, hplatform⟩ := Option.isSome_iff_exists.mp hworks.automated
  -- The id is stored after whatever was handed over.
  have hstored : ∀ given w', ledger w' =
      { ledger w with handed := (ledger w).handed ++ [given] } →
      (LastPin.set services.storage p.id).Ends ledger w' (.ok ()) ((ledger w).over p (some given)) := by
    intro given w' hgiven
    have hset := hworks.storage p.id w'
    rwa [hgiven] at hset
  have hopened : ∀ given w', ledger w' = ledger w →
      (platform.openTarget given (applicationOf p) >>= fun _ =>
        LastPin.set services.storage p.id).Ends ledger w' (.ok ())
          ((ledger w).over p (some (.opened given (applicationOf p)))) := by
    intro given w' hsame
    have hopen := hworks.openTarget platform hplatform given (applicationOf p) w'
    rw [hsame] at hopen
    exact hopen.bind fun w'' h => hstored _ w'' h
  unfold handOver
  rw [Services.needPlatform, hplatform, demand, pure_bind]
  by_cases hpath : isPath p.target = true
  · obtain ⟨there, hthere⟩ := hworks.pathExists target w
    simp only [hpath, if_true, handing]
    cases there with
    | false =>
      obtain ⟨w', hrun, hsame⟩ := hthere
      refine .inr ⟨trivial, w', ?_, hsame⟩
      rw [run_bind_ok hrun]
      rfl
    | true => exact .inl (hthere.bind fun w' hsame => hopened _ w' hsame)
  · left
    simp only [hpath, handing]
    by_cases hurl : isUrl target = true
    · simp only [hurl, if_true]
      exact hopened target w rfl
    · simp only [hurl]
      obtain ⟨output, hran⟩ := hworks.runShell platform hplatform target w
      exact hran.bind fun w' h => hstored _ w' h

/-- A use is recorded with the pin that is stored, if there is one. -/
lemma ends_recordUse (p : Pin) {elapsed : Nat} (helapsed : elapsed ≤ longestTime) {w : σ}
    (hids : ((ledger w).pins.map (·.id)).Nodup) (hcounted : ∀ q ∈ (ledger w).pins, q.Counted) :
    ∃ pins, (recordUse services p elapsed).Ends ledger w (.ok ()) { ledger w with pins := pins } ∧
      pins.map Pin.tally = (ledger w).pins.map (Pin.tallyAfter [p.id]) ∧ ∀ q ∈ pins, q.Counted := by
  obtain ⟨w₁, hlist, hsame⟩ := hworks.list w
  cases hstored : (ledger w).pins.find? (fun q => q.id == p.id) with
  | none =>
    exact ⟨_, ⟨w₁, run_recordUse_gone elapsed hlist hstored, hsame⟩, tally_gone hstored, hcounted⟩
  | some stored =>
    have hthis := hcounted stored (List.mem_of_find?_eq_some hstored)
    obtain ⟨average, haverage, hnonneg, hreached⟩ := averageAfter?_counted hthis helapsed
    obtain ⟨now, w₂, hnow, hsame'⟩ := hworks.now w₁
    obtain ⟨w₃, hupdate, hafter⟩ := hworks.update [stored.usedAt now average] w₂
    rw [hsame', hsame] at hafter
    refine ⟨_, ⟨w₃, (run_recordUse hlist hstored haverage hnow).trans hupdate, hafter⟩,
      tally_update hids hstored now average, fun q hq => ?_⟩
    rcases mem_update hq with rfl | hq
    · exact hthis.usedAt now hnonneg hreached
    · exact hcounted q hq

lemma ends_report (p : Pin) (fault : Fault) (w : σ) :
    (report services p fault).Ends ledger w (.ok ()) (ledger w) := by
  unfold report
  split
  · exact hworks.showMessage _ ‹_› _ w
  · exact ends_pure ()

/-- Whatever came of the use, the clock is stopped and the use recorded. -/
lemma exists_recorded (p : Pin) (t : Nat) {w₂ : σ} (hids : ((ledger w₂).pins.map (·.id)).Nodup)
    (hcounted : ∀ q ∈ (ledger w₂).pins, q.Counted) {w : σ} {handed : Option Handing}
    (hover : ledger w = (ledger w₂).over p handed) :
    ∃ t' w' pins, services.host.stopwatch.run.run w = (.ok t', w') ∧
      ledger ((recordUse services p (t' - t)).run.run w').2 =
        { (ledger w₂).over p handed with pins := pins } ∧
      pins.map Pin.tally = (ledger w₂).pins.map (Pin.tallyAfter [p.id]) ∧
      ∀ q ∈ pins, q.Counted := by
  obtain ⟨t', ht, w', hstop, hsame⟩ := hworks.stopwatch w
  have hpins : (ledger w').pins = (ledger w₂).pins := by
    rw [hsame, hover]
    cases handed <;> rfl
  rw [← hpins] at hids hcounted ⊢
  obtain ⟨pins, ⟨w₃, hrun, hseen⟩, htally, hall⟩ :=
    ends_recordUse hworks p (by omega : t' - t ≤ longestTime) hids hcounted
  refine ⟨t', w', pins, hstop, ?_, htally, hall⟩
  rw [hrun, hseen, hsame, hover]

/-- An opening whose target is resolved hands it over, if it can, and records the use. -/
lemma exists_opened {resolve : String → Context → Action σ String} {p : Pin}
    (hfragment : p.fragment = false) {environment : Option Environment} {extras : Fields Json}
    {depth : Nat} (hdepth : depth ≤ services.settings.maxLaunchDepth) {w w₁ w₂ : σ} {t : Nat}
    (hstart : services.host.stopwatch.run.run w = (.ok t, w₁)) {target : String}
    (hresolve : (resolve (expandHome services.host.home p.target)
      (Context.assemble services.settings (some p) environment extras depth)).run.run w₁ =
        (.ok target, w₂))
    (hids : ((ledger w₂).pins.map (·.id)).Nodup) (hcounted : ∀ q ∈ (ledger w₂).pins, q.Counted) :
    ∃ handed pins, Delivers p target handed ∧
      (openPin services resolve p environment extras depth).Ends ledger w
        (.ok (if handed.isSome then target else ""))
        { (ledger w₂).over p handed with pins := pins } ∧
      pins.map Pin.tally = (ledger w₂).pins.map (Pin.tallyAfter [p.id]) ∧
      ∀ q ∈ pins, q.Counted := by
  by_cases hempty : target.isEmpty = true
  · have hover : ledger w₂ = (ledger w₂).over p none := rfl
    obtain ⟨t', w'', pins, hstop, hseen, hpins⟩ :=
      exists_recorded hworks p t hids hcounted hover
    have huse := (Uses.target hfragment hresolve (by rw [hempty]; rfl)).run_use
    have hrun := run_openPin_used hdepth hstart huse hstop
    rw [String.isEmpty_iff.mp hempty] at hrun ⊢
    exact ⟨none, pins, .empty rfl, ⟨_, hrun, hseen⟩, hpins⟩
  · have hmarked : (!target.isEmpty) = true := by simpa using hempty
    rcases ends_handOver hworks p target w₂ with ⟨w₃, hhand, hover⟩ | ⟨hpath, w₃, hhand, hsame⟩
    · obtain ⟨t', w'', pins, hstop, hseen, hpins⟩ :=
        exists_recorded hworks p t hids hcounted hover
      have huse := (Uses.target hfragment hresolve (by rw [if_pos hmarked]; exact hhand)).run_use
      exact ⟨_, pins, .handed hempty, ⟨_, run_openPin_used hdepth hstart huse hstop, hseen⟩, hpins⟩
    · obtain ⟨w₄, hreport, hquiet⟩ := ends_report hworks p .fileMissing w₃
      have hover : ledger w₄ = (ledger w₂).over p none := hquiet.trans hsame
      obtain ⟨t', w'', pins, hstop, hseen, hpins⟩ :=
        exists_recorded hworks p t hids hcounted hover
      have huse := (Uses.target hfragment hresolve (by rw [if_pos hmarked]; exact hhand)).run_use
      exact ⟨none, pins, .missing hempty hpath,
        ⟨_, run_openPin_failed hdepth hstart huse hreport hstop, hseen⟩, hpins⟩

end Steps

end Launch

end Pinboard
