import Pinboard.Proofs.Launch.Ledger

/-!
# One hand-over for each opening

An opening makes its calls one after the other, and each of them may go wrong. What is seen of it
are the calls that it attempted. Whatever is missing and whichever call fails, a pin is handed over
once or not at all, its id is stored after that only if nothing failed, and a failure is told once.
-/
namespace Pinboard

open Action

variable {σ α : Type}

/-! ## Attempts -/

namespace Launch

/-- What an opening does to the platform, the notifier and the store. -/
inductive Deed where
  | handed (given : Handing)
  | toasted (title text : String)
  /-- The id of the pin that was opened last is stored. -/
  | stored (id : String)
  | told (text : String)
  deriving DecidableEq, Repr

namespace Deed

def handing? : Deed → Option Handing
  | handed given => some given
  | _ => none

def telling? : Deed → Option String
  | told text => some text
  | _ => none

def storedId? : Deed → Option String
  | stored id => some id
  | _ => none

end Deed

/-- A deed with whether it was done. One that fails has been attempted all the same. -/
structure Attempt where
  deed : Deed
  done : Bool
  deriving DecidableEq, Repr

def handings (attempts : List Attempt) : List Handing := attempts.filterMap (·.deed.handing?)

def tellings (attempts : List Attempt) : List String := attempts.filterMap (·.deed.telling?)

/-- What is seen of the calls so far. -/
structure Trail where
  attempts : List Attempt
  /-- What is stored as the id of the pin that was opened last. -/
  lastPin : Option Json

namespace Trail

/-- An id is stored if storing it does not fail. -/
def add (T : Trail) (a : Attempt) : Trail where
  attempts := T.attempts ++ [a]
  lastPin := match a.deed.storedId?, a.done with
    | some id, true => some (.str id)
    | _, _ => T.lastPin

lemma lastPin_add {T : Trail} {a : Attempt} (h : a.deed.storedId? = none ∨ a.done = false) :
    (T.add a).lastPin = T.lastPin := by
  rcases h with h | h <;> simp [add, h]

def adds (T : Trail) (attempts : List Attempt) : Trail := attempts.foldl add T

@[simp] lemma adds_nil (T : Trail) : T.adds [] = T := rfl

@[simp] lemma adds_cons (T : Trail) (a : Attempt) (attempts : List Attempt) :
    T.adds (a :: attempts) = (T.add a).adds attempts := rfl

lemma adds_append (T : Trail) (attempts more : List Attempt) :
    T.adds (attempts ++ more) = (T.adds attempts).adds more := List.foldl_append

@[simp] lemma attempts_adds (T : Trail) (attempts : List Attempt) :
    (T.adds attempts).attempts = T.attempts ++ attempts := by
  induction attempts generalizing T with
  | nil => simp
  | cons a attempts ih => simp [ih, add]

end Trail

/-- Deeds one after the other up to the first that fails. -/
inductive Carried : List Deed → List Attempt → Except Fault Unit → Prop
  | all : Carried [] [] (.ok ())
  | next {deed : Deed} {deeds : List Deed} {attempts : List Attempt} {ended : Except Fault Unit}
      (hrest : Carried deeds attempts ended) :
      Carried (deed :: deeds) (⟨deed, true⟩ :: attempts) ended
  | failed (deed : Deed) (deeds : List Deed) (fault : Fault) :
      Carried (deed :: deeds) [⟨deed, false⟩] (.error fault)

namespace Carried

variable {deeds between : List Deed} {attempts : List Attempt} {ended : Except Fault Unit}

lemma mem_deeds (h : Carried deeds attempts ended) : ∀ a ∈ attempts, a.deed ∈ deeds := by
  induction h with
  | all => simp
  | next _ ih =>
    intro a ha
    rcases List.mem_cons.mp ha with rfl | ha
    · exact List.mem_cons_self
    · exact List.mem_cons_of_mem _ (ih a ha)
  | failed deed deeds fault => simp

lemma ended_iff (h : Carried deeds attempts ended) :
    ended = .ok () ↔ ∀ a ∈ attempts, a.done = true := by
  induction h with
  | all => simp
  | next _ ih => simpa using ih
  | failed deed deeds fault => simp

/-- The id that is stored at the end is stored exactly if nothing failed before and then. -/
lemma lastPin_adds {id : String} (hbetween : ∀ deed ∈ between, deed.storedId? = none)
    (h : Carried (between ++ [.stored id]) attempts ended) (T : Trail) :
    (T.adds attempts).lastPin = if ended.isOk then some (.str id) else T.lastPin := by
  -- On what comes before the id: none of it stores an id, so the trail may be any.
  induction between generalizing T attempts with
  | nil =>
    cases h with
    | next hrest =>
      cases hrest
      rfl
    | failed => rfl
  | cons deed between ih =>
    obtain ⟨hdeed, hbetween⟩ := List.forall_mem_cons.mp hbetween
    cases h with
    | next hrest =>
      rw [Trail.adds_cons, ih hbetween hrest, Trail.lastPin_add (.inl hdeed)]
    | failed => exact Trail.lastPin_add (.inr rfl)

lemma tellings_eq_nil (hdeeds : ∀ deed ∈ deeds, deed.telling? = none)
    (h : Carried deeds attempts ended) : tellings attempts = [] :=
  List.filterMap_eq_nil_iff.mpr fun a ha => hdeeds a.deed (h.mem_deeds a ha)

/-- What is handed over first is attempted, come what may. -/
lemma handings_eq {given : Handing} (hdeeds : ∀ deed ∈ deeds, deed.handing? = none)
    (h : Carried (.handed given :: deeds) attempts ended) : handings attempts = [given] := by
  cases h with
  | next hrest =>
    have hnone : handings _ = [] :=
      List.filterMap_eq_nil_iff.mpr fun a ha => hdeeds a.deed (hrest.mem_deeds a ha)
    exact congrArg (given :: ·) hnone
  | failed => rfl

/-- After a handing there are toasts and an id to store, and no other handing. -/
lemma handings_toasted {given : Handing} {toasts : List Deed} {id : String}
    (htoasts : ∀ deed ∈ toasts, ∃ title text, deed = .toasted title text)
    (h : Carried (.handed given :: toasts ++ [.stored id]) attempts ended) :
    handings attempts = [given] := by
  refine handings_eq (List.forall_mem_append.mpr ⟨fun deed hdeed => ?_, by simp [Deed.handing?]⟩) h
  obtain ⟨title, text, rfl⟩ := htoasts deed hdeed
  rfl

end Carried

/-! ## Actions that are seen -/

/-- An action that is seen as a deed, done if it does not fault. -/
def Attempts (trail : σ → Trail) (deed : Deed) (x : Action σ α) : Prop :=
  ∀ w, ∃ result, x.Ends trail w result ((trail w).add ⟨deed, result.isOk⟩)

/-- An action that does some deeds in turn and ends where one fails. -/
def Carries (trail : σ → Trail) (deeds : List Deed) (x : Action σ Unit) : Prop :=
  ∀ w, ∃ attempts ended, Carried deeds attempts ended ∧
    x.Ends trail w ended ((trail w).adds attempts)

section Actions

variable {trail : σ → Trail} {deed : Deed} {deeds : List Deed}

lemma Attempts.carries {x : Action σ Unit} (hx : Attempts trail deed x) :
    Carries trail [deed] x := by
  intro w
  obtain ⟨result, hends⟩ := hx w
  cases result with
  | ok u => exact ⟨_, _, .next .all, hends⟩
  | error fault => exact ⟨_, _, .failed deed [] fault, hends⟩

lemma Attempts.bind_pure {β : Type} {x : Action σ α} (hx : Attempts trail deed x) (f : α → β) :
    Attempts trail deed (x >>= fun a => pure (f a)) := by
  intro w
  obtain ⟨result, hends⟩ := hx w
  cases result with
  | ok a => exact ⟨.ok (f a), hends.bind_pure f⟩
  | error fault => exact ⟨.error fault, hends.bind_error⟩

lemma Attempts.bind {x : Action σ α} {f : α → Action σ Unit} (hx : Attempts trail deed x)
    (hf : ∀ a, Carries trail deeds (f a)) : Carries trail (deed :: deeds) (x >>= f) := by
  intro w
  obtain ⟨result, hends⟩ := hx w
  cases result with
  | ok a =>
    obtain ⟨w', hrun, hview⟩ := hends
    obtain ⟨attempts, ended, hcarried, w'', hrun', hview'⟩ := hf a w'
    refine ⟨_, ended, hcarried.next, w'', (run_bind_ok hrun).trans hrun', ?_⟩
    rw [hview', hview]
    rfl
  | error fault => exact ⟨_, _, .failed deed deeds fault, hends.bind_error⟩

end Actions

end Launch

open Launch

/-- Services whose calls are seen. Every call on the platform, every toast and the storing of the
last opened pin may fail; only messages can always be shown. What is asked for otherwise, paths, the
clock and the pins, leaves no trail. -/
structure Services.Tracked (services : Services σ) (trail : σ → Trail)
    (there : σ → String → Bool) : Prop where
  setClipboard : ∀ platform ∈ services.platform, ∀ text,
    Attempts trail (.handed (.copied text)) (platform.setClipboard text)
  openTarget : ∀ platform ∈ services.platform, ∀ target application,
    Attempts trail (.handed (.opened target application)) (platform.openTarget target application)
  runShell : ∀ platform ∈ services.platform, ∀ command,
    Attempts trail (.handed (.ran command)) (platform.runShell command)
  showToast : ∀ notifier ∈ services.notifier, ∀ title text,
    Attempts trail (.toasted title text) (notifier.showToast title text)
  showMessage : ∀ notifier ∈ services.notifier, ∀ text w,
    (notifier.showMessage text).Ends trail w (.ok ()) ((trail w).add ⟨.told text, true⟩)
  storage : ∀ id, Attempts trail (.stored id) (services.storage.set Stored.lastPinKey (.str id))
  pathExists : ∀ path w,
    (services.host.pathExists path).Ends trail w (.ok (there w path)) (trail w)
  stopwatch : ∀ w, ∃ t, services.host.stopwatch.Ends trail w (.ok t) (trail w)
  list : services.pins.list.Leaves trail
  update : ∀ items, (services.pins.update items).Leaves trail
  now : services.host.now.Leaves trail

namespace Launch

/-! ## How a use goes -/

/-- The text that a pin comes to, nothing for a fragment. -/
def targetOf (services : Services σ) (resolve : String → Context → Action σ String) (p : Pin)
    (context : Context) : Action σ String :=
  if p.fragment then pure "" else resolve (expandHome services.host.home p.target) context

/-- What is to be handed over: a fragment as it is, or a target that is not empty, unless the pin is
a path that leads nowhere. -/
inductive Gives (p : Pin) (there : String → Bool) : Except Fault String → Handing → Prop
  | fragment (hkind : p.fragment = true) : Gives p there (.ok "") (.copied p.target)
  | target {target : String} (hkind : p.fragment = false) (hempty : target ≠ "")
      (hthere : ¬(isPath p.target = true ∧ there target = false)) :
      Gives p there (.ok target) (handing p target)

/-- How the use of a pin goes once its target is resolved, with what it attempts. -/
inductive Goes (services : Services σ) (p : Pin) (there : String → Bool) :
    Except Fault String → List Attempt → Except Fault Unit → Prop
  | unresolved (hkind : p.fragment = false) (fault : Fault) :
      Goes services p there (.error fault) [] (.error fault)
  | nothing (hkind : p.fragment = false) : Goes services p there (.ok "") [] (.ok ())
  | unautomated {target : String} (hplatform : services.platform = none)
      (hwanted : p.fragment = true ∨ target ≠ "") :
      Goes services p there (.ok target) [] (.error (.missing .platform))
  | missing {target : String} (hkind : p.fragment = false) (hempty : target ≠ "")
      (hpath : isPath p.target = true) (hthere : there target = false) :
      Goes services p there (.ok target) [] (.error .fileMissing)
  | given {resolved : Except Fault String} {given : Handing} (toasts : List Deed)
      {attempts : List Attempt} {ended : Except Fault Unit} (hplatform : services.platform.isSome)
      (hgives : Gives p there resolved given)
      (htoasts : ∀ deed ∈ toasts, ∃ title text, deed = .toasted title text)
      (hcarried : Carried (.handed given :: toasts ++ [.stored p.id]) attempts ended) :
      Goes services p there resolved attempts ended

section Uses

variable {services : Services σ} {trail : σ → Trail} {there : σ → String → Bool} {p : Pin}

/-- What carries a handing out, toasts it and stores the id is how a use may go. -/
lemma Carries.goes {given : Handing} (toasts : List Deed) {x : Action σ Unit}
    (hx : Carries trail (.handed given :: toasts ++ [.stored p.id]) x)
    (hplatform : services.platform.isSome) {exist : String → Bool} {resolved : Except Fault String}
    (hgives : Gives p exist resolved given)
    (htoasts : ∀ deed ∈ toasts, ∃ title text, deed = .toasted title text) (w : σ) :
    ∃ attempts ended, Goes services p exist resolved attempts ended ∧
      x.Ends trail w ended ((trail w).adds attempts) := by
  obtain ⟨attempts, ended, hcarried, hends⟩ := hx w
  exact ⟨attempts, ended, .given toasts hplatform hgives htoasts hcarried, hends⟩

variable (hservices : services.Tracked trail there)
include hservices

lemma carries_stored (id : String) :
    Carries trail [.stored id] (LastPin.set services.storage id) := (hservices.storage id).carries

/-- A fragment is copied, the user is told if there is a notifier, and the id is stored. -/
lemma goes_copyFragment (hkind : p.fragment = true) (w : σ) :
    ∃ attempts ended, Goes services p (there w) (.ok "") attempts ended ∧
      (copyFragment services p).Ends trail w ended ((trail w).adds attempts) := by
  unfold copyFragment
  rw [Services.needPlatform]
  cases hplatform : services.platform with
  | none => exact ⟨[], _, .unautomated hplatform (.inl hkind), w, rfl, rfl⟩
  | some platform =>
    have hautomated : services.platform.isSome = true := by simp [hplatform]
    have hcopy := hservices.setClipboard platform hplatform p.target
    have hstored := carries_stored hservices p.id
    rw [demand, pure_bind]
    cases hnotifier : services.notifier with
    | none =>
      exact Carries.goes [] (hcopy.bind fun _ => hstored) hautomated (.fragment hkind) (by simp) w
    | some notifier =>
      have htoast := hservices.showToast notifier hnotifier "Copied To Clipboard" ""
      exact Carries.goes [.toasted "Copied To Clipboard" ""]
        (hcopy.bind fun _ => htoast.bind fun _ => hstored) hautomated (.fragment hkind) (by simp) w

/-- A target is opened or run, and the id is stored, unless the pin is a path to nothing. -/
lemma goes_handOver (hkind : p.fragment = false) {target : String} (hempty : target ≠ "") (w : σ) :
    ∃ attempts ended, Goes services p (there w) (.ok target) attempts ended ∧
      (handOver services p target).Ends trail w ended ((trail w).adds attempts) := by
  unfold handOver
  rw [Services.needPlatform]
  cases hplatform : services.platform with
  | none => exact ⟨[], _, .unautomated hplatform (.inr hempty), w, rfl, rfl⟩
  | some platform =>
    have hautomated : services.platform.isSome = true := by simp [hplatform]
    have hopen := fun given => hservices.openTarget platform hplatform given (applicationOf p)
    have hstored := carries_stored hservices p.id
    rw [demand, pure_bind]
    by_cases hpath : isPath p.target = true
    · rw [if_pos hpath]
      -- Whether the path exists is asked in the state that the resolution left.
      obtain ⟨w', hrun, hsame⟩ := hservices.pathExists target w
      cases hthere : there w target with
      | false =>
        refine ⟨[], _, .missing hkind hempty hpath hthere, w', ?_, hsame⟩
        rw [run_bind_ok hrun, hthere]
        rfl
      | true =>
        have hgives : Gives p (there w) (.ok target) (handing p target) :=
          .target hkind hempty (by simp [hthere])
        rw [handing, if_pos hpath] at hgives
        obtain ⟨attempts, ended, hgoes, w'', hrun', hview⟩ :=
          Carries.goes [] ((hopen _).bind fun _ => hstored) hautomated hgives (by simp) w'
        refine ⟨attempts, ended, hgoes, w'', ?_, hsame ▸ hview⟩
        rw [run_bind_ok hrun, hthere]
        exact hrun'
    · have hgives : Gives p (there w) (.ok target) (handing p target) :=
        .target hkind hempty fun h => hpath h.1
      rw [handing, if_neg hpath] at hgives
      rw [if_neg hpath]
      split at hgives
      · rw [if_pos ‹_›]
        exact Carries.goes [] ((hopen _).bind fun _ => hstored) hautomated hgives (by simp) w
      · rw [if_neg ‹_›]
        have hrun := hservices.runShell platform hplatform target
        exact Carries.goes [] (hrun.bind fun _ => hstored) hautomated hgives (by simp) w

/-- However the resolution of the target ends, the use goes on in one of the ways. -/
lemma exists_goes (resolve : String → Context → Action σ String) (p : Pin) (context : Context)
    (w : σ) :
    ∃ resolved w₂ attempts ended text w₃,
      (targetOf services resolve p context).run.run w = (resolved, w₂) ∧
      Goes services p (there w₂) resolved attempts ended ∧
      (use services resolve p context).run.run w = (ended.map fun _ => text, w₃) ∧
      trail w₃ = (trail w₂).adds attempts := by
  unfold targetOf
  cases hkind : p.fragment with
  | true =>
    obtain ⟨attempts, ended, hgoes, w₃, hcopy, hseen⟩ := goes_copyFragment hservices hkind w
    exact ⟨_, w, attempts, ended, "", w₃, rfl, hgoes, (Uses.fragment hkind hcopy).run_use, hseen⟩
  | false =>
    simp only [Bool.false_eq_true, if_false]
    cases hresolve : (resolve (expandHome services.host.home p.target) context).run.run w with
    | mk resolved w₂ =>
    cases resolved with
    | error fault =>
      refine ⟨_, w₂, [], _, "", w₂, rfl, .unresolved hkind fault, ?_, rfl⟩
      rw [use, if_neg (by simp [hkind]), run_bind_error hresolve]
      rfl
    | ok target =>
      by_cases hempty : target = ""
      · subst hempty
        exact ⟨_, w₂, [], _, "", w₂, rfl, .nothing hkind,
          (Uses.target hkind hresolve rfl).run_use, rfl⟩
      · obtain ⟨attempts, ended, hgoes, w₃, hhand, hseen⟩ :=
          goes_handOver hservices hkind hempty w₂
        have hmarked : (!target.isEmpty) = true := by simpa using hempty
        exact ⟨_, w₂, attempts, ended, target, w₃, rfl, hgoes,
          (Uses.target hkind hresolve (by rwa [if_pos hmarked])).run_use, hseen⟩

/-- What a report is seen as: a failure is told if there is a notifier. -/
def reports (services : Services σ) (p : Pin) : Except Fault Unit → List Attempt
  | .ok () => []
  | .error fault =>
    if services.notifier.isSome then [⟨.told (failureText p fault), true⟩] else []

lemma ends_report_reports (p : Pin) (fault : Fault) (w : σ) :
    (report services p fault).Ends trail w (.ok ())
      ((trail w).adds (reports services p (.error fault))) := by
  unfold report reports
  cases hnotifier : services.notifier with
  | none => exact ends_pure ()
  | some notifier => exact hservices.showMessage notifier hnotifier _ w

lemma leaves_recordUse (p : Pin) (elapsed : Nat) : (recordUse services p elapsed).Leaves trail := by
  refine .bind hservices.list fun pins => ?_
  split
  · exact leaves_pure ()
  · split
    · exact leaves_throw _
    · exact .bind hservices.now fun now => hservices.update _

end Uses

/-! ## What the calls come to -/

/-- Something failed: the target could not be resolved, there is no platform for what is to be
handed over, a path leads nowhere, or a call went wrong. -/
inductive Fails (services : Services σ) (p : Pin) (there : String → Bool)
    (resolved : Except Fault String) (attempts : List Attempt) : Prop
  | unresolved (fault : Fault) (h : resolved = .error fault)
  | unautomated (hplatform : services.platform = none)
      (hwanted : p.fragment = true ∨ ∃ target, resolved = .ok target ∧ target ≠ "")
  | missing (target : String) (h : resolved = .ok target) (hkind : p.fragment = false)
      (hempty : target ≠ "") (hpath : isPath p.target = true) (hthere : there target = false)
  | call (a : Attempt) (h : a ∈ attempts) (hfailed : a.done = false)

/-- A pin was handed over, and all calls went well. -/
def Succeeds (attempts : List Attempt) : Prop :=
  handings attempts ≠ [] ∧ ∀ a ∈ attempts, a.done = true

/-- What an opening attempts after its resolution. It hands over once exactly if there is a platform
and something to give, a fragment as it is and a target as the pin and the target ask for. The id is
stored if nothing failed then, and stays what it was otherwise. What failed is told in one message
if there is a notifier, and there is no message without a failure. -/
structure HandsOverOnce (services : Services σ) (p : Pin) (there : String → Bool)
    (resolved : Except Fault String) (before after : Trail) (attempts : List Attempt) : Prop where
  attempts_eq : after.attempts = before.attempts ++ attempts
  once : (handings attempts).length ≤ 1
  handed_iff : (handings attempts).length = 1 ↔ services.platform.isSome = true ∧
    (p.fragment = true ∨ ∃ target, resolved = .ok target ∧ target ≠ "" ∧
      ¬(isPath p.target = true ∧ there target = false))
  copied : p.fragment = true → ∀ given ∈ handings attempts, given = .copied p.target
  handed : p.fragment = false → ∀ given ∈ handings attempts, ∃ target, resolved = .ok target ∧
    given = handing p target ∧ ((∃ opened application, given = .opened opened application) ↔
      isPath p.target = true ∨ isUrl target = true)
  stored : Succeeds attempts → after.lastPin = some (.str p.id)
  kept : ¬Succeeds attempts → after.lastPin = before.lastPin
  told : services.notifier.isSome = true → Fails services p there resolved attempts →
    ∃ fault, tellings attempts = [failureText p fault]
  silent : services.notifier = none ∨ ¬Fails services p there resolved attempts →
    tellings attempts = []

lemma opened_handing_iff (p : Pin) (target : String) :
    (∃ opened application, handing p target = .opened opened application) ↔
      isPath p.target = true ∨ isUrl target = true := by
  unfold handing
  split
  · simp [*]
  · split <;> simp [*]

section Reports

variable {services : Services σ} {p : Pin} {there : String → Bool}
  {resolved : Except Fault String} {attempts : List Attempt} {ended : Except Fault Unit}

lemma done_of_mem_reports {a : Attempt} (h : a ∈ reports services p ended) : a.done = true := by
  unfold reports at h
  split at h
  · cases h
  · split at h
    · rw [List.mem_singleton.mp h]
    · cases h

lemma handings_append_reports (attempts : List Attempt) :
    handings (attempts ++ reports services p ended) = handings attempts := by
  have hreports : handings (reports services p ended) = [] := by
    unfold reports
    split
    · rfl
    · split <;> rfl
  rw [handings, List.filterMap_append]
  exact (congrArg (handings attempts ++ ·) hreports).trans (List.append_nil _)

lemma lastPin_adds_reports (T : Trail) :
    (T.adds (reports services p ended)).lastPin = T.lastPin := by
  unfold reports
  split
  · rfl
  · split <;> rfl

/-- Either nothing is attempted or a handing comes first, and then the id is stored at the end of
what went well. -/
lemma Goes.attempts_cases (h : Goes services p there resolved attempts ended) :
    attempts = [] ∨ ∃ given, Gives p there resolved given ∧ handings attempts = [given] ∧
      tellings attempts = [] ∧ (ended = .ok () ↔ ∀ a ∈ attempts, a.done = true) ∧
      ∀ T : Trail, (T.adds attempts).lastPin =
        if ended.isOk then some (.str p.id) else T.lastPin := by
  cases h with
  | unresolved | nothing | unautomated | missing => exact .inl rfl
  | given toasts hplatform hgives htoasts hcarried =>
    refine .inr ⟨_, hgives, hcarried.handings_toasted htoasts, hcarried.tellings_eq_nil ?_,
      hcarried.ended_iff, hcarried.lastPin_adds ?_⟩
    · refine List.forall_mem_cons.mpr ⟨rfl, List.forall_mem_append.mpr ⟨fun deed hdeed => ?_, ?_⟩⟩
      · obtain ⟨title, text, rfl⟩ := htoasts deed hdeed
        rfl
      · simp [Deed.telling?]
    · refine List.forall_mem_cons.mpr ⟨rfl, fun deed hdeed => ?_⟩
      obtain ⟨title, text, rfl⟩ := htoasts deed hdeed
      rfl

/-- Nothing else is handed over than what is to be handed over. -/
lemma Goes.gives (h : Goes services p there resolved attempts ended) {given : Handing}
    (hgiven : given ∈ handings (attempts ++ reports services p ended)) :
    Gives p there resolved given := by
  rw [handings_append_reports] at hgiven
  rcases h.attempts_cases with rfl | ⟨only, hgives, hhandings, -⟩
  · cases hgiven
  · obtain rfl : given = only := by simpa [hhandings] using hgiven
    exact hgives

/-- Only a report tells anything. -/
lemma Goes.tellings_eq (h : Goes services p there resolved attempts ended) :
    tellings (attempts ++ reports services p ended) = tellings (reports services p ended) := by
  have hquiet : tellings attempts = [] := by
    rcases h.attempts_cases with rfl | ⟨-, -, -, hquiet, -⟩
    · rfl
    · exact hquiet
  rw [tellings, List.filterMap_append]
  exact congrArg (· ++ tellings (reports services p ended)) hquiet

lemma Goes.succeeds_iff (h : Goes services p there resolved attempts ended) :
    Succeeds (attempts ++ reports services p ended) ↔ handings attempts ≠ [] ∧ ended = .ok () := by
  have hreports : ∀ a ∈ reports services p ended, a.done = true := fun _ => done_of_mem_reports
  rw [Succeeds, handings_append_reports]
  rcases h.attempts_cases with rfl | ⟨given, -, -, -, hended, -⟩
  · simp [handings]
  · rw [List.forall_mem_append, hended]
    tauto

/-- The use ends in a fault for one of the reasons. -/
lemma Goes.fails_iff (h : Goes services p there resolved attempts ended) :
    Fails services p there resolved (attempts ++ reports services p ended) ↔ ended ≠ .ok () := by
  cases h with
  | unresolved hkind fault => exact iff_of_true (.unresolved fault rfl) nofun
  | nothing hkind =>
    refine iff_of_false ?_ (not_not.mpr rfl)
    rintro (⟨_, hresolved⟩ | ⟨-, hwanted⟩ | ⟨_, hresolved, -, hempty⟩ | ⟨_, ha, -⟩)
    · cases hresolved
    · simp [hkind] at hwanted
    · exact hempty (Except.ok.inj hresolved).symm
    · cases ha
  | unautomated hplatform hwanted =>
    exact iff_of_true (.unautomated hplatform (hwanted.imp_right fun h => ⟨_, rfl, h⟩)) nofun
  | missing hkind hempty hpath hthere =>
    exact iff_of_true (.missing _ rfl hkind hempty hpath hthere) nofun
  | given toasts hplatform hgives htoasts hcarried =>
    constructor
    · rintro (⟨_, hresolved⟩ | ⟨hnone, -⟩ | ⟨target, hresolved, hkind, -, hpath, hthere⟩ |
        ⟨a, ha, hfailed⟩) rfl
      · cases hgives <;> cases hresolved
      · simp [hnone] at hplatform
      · cases hgives with
        | fragment hfragment => simp [hfragment] at hkind
        | target _ _ hleads =>
          obtain rfl := Except.ok.inj hresolved
          exact hleads ⟨hpath, hthere⟩
      · rw [reports, List.append_nil] at ha
        simp [hcarried.ended_iff.mp rfl a ha] at hfailed
    · intro hfault
      obtain ⟨a, ha, hfailed⟩ : ∃ a ∈ attempts, ¬a.done = true := by
        simpa using mt hcarried.ended_iff.mpr hfault
      exact .call a (List.mem_append_left _ ha) (by simpa using hfailed)

/-- Every way in which a use goes, with its report, hands over once at most and tells of its
failure. -/
lemma Goes.handsOverOnce (h : Goes services p there resolved attempts ended) (T : Trail) :
    HandsOverOnce services p there resolved T (T.adds (attempts ++ reports services p ended))
      (attempts ++ reports services p ended) where
  attempts_eq := T.attempts_adds _
  once := by
    rw [handings_append_reports]
    rcases h.attempts_cases with rfl | ⟨given, -, hhandings, -⟩
    · exact Nat.zero_le _
    · simp [hhandings]
  handed_iff := by
    rw [handings_append_reports]
    cases h with
    | unresolved hkind | nothing hkind => simp [handings, hkind]
    | unautomated hplatform => simp [handings, hplatform]
    | missing hkind hempty hpath hthere => simp [handings, hkind, hpath, hthere]
    | given toasts hplatform hgives htoasts hcarried =>
      rw [hcarried.handings_toasted htoasts]
      refine iff_of_true rfl ⟨hplatform, ?_⟩
      cases hgives with
      | fragment hkind => exact .inl hkind
      | target hkind hempty hthere => exact .inr ⟨_, rfl, hempty, hthere⟩
  copied hkind given hgiven := by
    cases h.gives hgiven with
    | fragment => rfl
    | target hother => simp [hkind] at hother
  handed hkind given hgiven := by
    cases h.gives hgiven with
    | fragment hother => simp [hkind] at hother
    | target => exact ⟨_, rfl, rfl, opened_handing_iff p _⟩
  stored hsucceeds := by
    obtain ⟨hhanded, rfl⟩ := h.succeeds_iff.mp hsucceeds
    rcases h.attempts_cases with rfl | ⟨-, -, -, -, -, hlast⟩
    · exact absurd rfl hhanded
    · rw [Trail.adds_append, lastPin_adds_reports, hlast]
      rfl
  kept hfails := by
    rw [Trail.adds_append, lastPin_adds_reports]
    rcases h.attempts_cases with rfl | ⟨given, -, hhandings, -, -, hlast⟩
    · rfl
    · rw [hlast]
      cases ended with
      | ok u => exact absurd (h.succeeds_iff.mpr ⟨by simp [hhandings], rfl⟩) hfails
      | error fault => rfl
  told hheard hfails := by
    rw [h.tellings_eq]
    cases ended with
    | ok u => exact absurd rfl (h.fails_iff.mp hfails)
    | error fault => exact ⟨fault, by rw [reports, if_pos hheard]; rfl⟩
  silent hquiet := by
    rw [h.tellings_eq]
    cases ended with
    | ok u => rfl
    | error fault =>
      rcases hquiet with hnone | hworks
      · rw [reports, hnone]
        rfl
      · exact absurd (h.fails_iff.mpr nofun) hworks

end Reports

/-! ## Openings -/

/-- An opening within the depth limit ends without a fault, whatever is missing and whichever calls
fail. After the clock was read and the target resolved, it attempts at most one handing and stores
the id of the pin if all went well; a failure is told once. -/
theorem openPin_hands_over_once {services : Services σ} {trail : σ → Trail}
    {there : σ → String → Bool} (hservices : services.Tracked trail there)
    (resolve : String → Context → Action σ String) (p : Pin) (environment : Option Environment)
    (extras : Fields Json) {depth : Nat} (hdepth : depth ≤ services.settings.maxLaunchDepth)
    (w : σ) :
    ∃ t w₁ resolved w₂, services.host.stopwatch.run.run w = (.ok t, w₁) ∧ trail w₁ = trail w ∧
      (targetOf services resolve p (Context.assemble services.settings (some p) environment extras
        depth)).run.run w₁ = (resolved, w₂) ∧
      ∃ text w' attempts,
        (openPin services resolve p environment extras depth).run.run w = (.ok text, w') ∧
        HandsOverOnce services p (there w₂) resolved (trail w₂) (trail w') attempts := by
  obtain ⟨t, w₁, hstart, hclock⟩ := hservices.stopwatch w
  obtain ⟨resolved, w₂, attempts, ended, text, w₃, hresolve, hgoes, huse, hseen⟩ :=
    exists_goes hservices resolve p
      (Context.assemble services.settings (some p) environment extras depth) w₁
  refine ⟨t, w₁, resolved, w₂, hstart, hclock, hresolve, ?_⟩
  have hgoes' := hgoes.handsOverOnce (trail w₂)
  cases ended with
  | ok u =>
    obtain ⟨t', w₄, hstop, hsame⟩ := hservices.stopwatch w₃
    refine ⟨_, _, attempts, run_openPin_used hdepth hstart huse hstop, ?_⟩
    rw [leaves_recordUse hservices, hsame, hseen]
    rwa [reports, List.append_nil] at hgoes'
  | error fault =>
    obtain ⟨w₄, hreport, htold⟩ := ends_report_reports hservices p fault w₃
    obtain ⟨t', w₅, hstop, hsame⟩ := hservices.stopwatch w₄
    refine ⟨_, _, attempts ++ reports services p (.error fault),
      run_openPin_failed hdepth hstart huse hreport hstop, ?_⟩
    rwa [leaves_recordUse hservices, hsame, htold, hseen, ← Trail.adds_append]

namespace Trail

/-- A call that is seen and goes well or not. -/
def call (works : Deed → Bool) (deed : Deed) : Action Trail Unit := do
  modify fun T => T.add ⟨deed, works deed⟩
  if works deed then pure () else throw (.refused "call")

variable {works : Deed → Bool}

lemma call_attempts (deed : Deed) : Attempts id deed (call works deed) := by
  intro T
  unfold call
  cases works deed with
  | true => exact ⟨.ok (), _, rfl, rfl⟩
  | false => exact ⟨.error (.refused "call"), _, rfl, rfl⟩

def platform (works : Deed → Bool) : Platform Trail where
  clipboard := pure none
  selectedText := pure none
  application := pure none
  directory := pure none
  files := pure []
  tab := pure none
  track := pure none
  setClipboard := fun text => call works (.handed (.copied text))
  paste := fun _ => pure ()
  runShell := fun command => do
    call works (.handed (.ran command))
    pure ""
  openTarget := fun target application => call works (.handed (.opened target application))
  speak := fun _ _ => pure ()
  runInBrowser := fun _ _ => pure none

def notifier (works : Deed → Bool) : Notifier Trail where
  showMessage := fun text => modify fun T => T.add ⟨.told text, true⟩
  showAlert := fun _ _ => pure ()
  showToast := fun title text => call works (.toasted title text)
  prompt := fun _ _ _ => pure none
  confirm := fun _ _ => pure false

/-- A place where nothing is kept. -/
def nowhere : Memory.Shelf Trail (List α) where
  value := fun _ => []
  put := fun _ T => T

def storage (works : Deed → Bool) : KeyValueStore Trail where
  get? := fun _ => do return (← get).lastPin
  set := fun _ v => call works (.stored v.display)
  erase := fun _ => pure ()

def host : Host Trail where
  user := ""
  home := "/home"
  name := ""
  zone := "UTC"
  now := pure Journal.nine
  freshNumber := pure 0
  stopwatch := pure 0
  pathExists := fun _ => pure true
  sample := fun _ _ => pure []

/-- Services of which some calls fail. -/
def services (works : Deed → Bool) : Services Trail where
  pins := Memory.collection nowhere
  groups := Memory.collection nowhere
  tags := Memory.collection nowhere
  storage := storage works
  platform := some (platform works)
  notifier := some (notifier works)
  completion := none
  host := host
  settings := Settings.default

lemma services_tracked (works : Deed → Bool) :
    (services works).Tracked id fun _ _ => true where
  setClipboard platform hplatform text := by
    cases hplatform
    exact call_attempts _
  openTarget platform hplatform target application := by
    cases hplatform
    exact call_attempts _
  runShell platform hplatform command := by
    cases hplatform
    exact (call_attempts _).bind_pure _
  showToast notifier hnotifier title text := by
    cases hnotifier
    exact call_attempts _
  showMessage notifier hnotifier text T := by
    cases hnotifier
    exact ⟨_, rfl, rfl⟩
  storage lastId := call_attempts (.stored lastId)
  pathExists path T := ⟨T, rfl, rfl⟩
  stopwatch T := ⟨0, T, rfl, rfl⟩
  list T := rfl
  update items T := rfl
  now T := rfl

end Trail

/-- A fragment. -/
def fragmentPin : Pin := { Desktop.pin "a" "x" with fragment := true }

/-- Everything goes well but toasts. -/
def untoasted : Deed → Bool
  | .toasted _ _ => false
  | _ => true

/-- After a toast that fails the id of a copied fragment is not stored, and the failure is told. -/
theorem openPin_hands_over_once_untoasted :
    ((Trail.services untoasted).Tracked id (fun _ _ => true) ∧
      0 ≤ (Trail.services untoasted).settings.maxLaunchDepth) ∧
    ∃ T,
      (openPin (Trail.services untoasted) (fun text _ => pure text) fragmentPin none [] 0).run.run
        ⟨[], none⟩ = (.ok "", T) ∧
      handings T.attempts = [.copied "x"] ∧ T.lastPin = none ∧
      ∃ fault, tellings T.attempts = [failureText fragmentPin fault] := by
  have htracked := Trail.services_tracked untoasted
  refine ⟨⟨htracked, Nat.zero_le _⟩, ?_⟩
  obtain ⟨t, w₁, resolved, w₂, hstart, -, hresolve, text, T, attempts, hrun, honce⟩ :=
    openPin_hands_over_once htracked (fun text _ => pure text) fragmentPin none [] (Nat.zero_le _)
      ⟨[], none⟩
  obtain ⟨-, rfl⟩ := Prod.mk.inj hstart
  obtain ⟨rfl, rfl⟩ := Prod.mk.inj hresolve
  have hattempts : T.attempts = attempts := honce.attempts_eq
  obtain ⟨given, hgiven⟩ := List.length_eq_one_iff.mp (honce.handed_iff.mpr ⟨rfl, .inl rfl⟩)
  have hcopied := honce.copied rfl given (by simp [hgiven])
  -- The toast is the second thing that is attempted.
  have hfailed : ⟨.toasted "Copied To Clipboard" "", false⟩ ∈ attempts := by
    obtain ⟨-, rfl⟩ := Prod.mk.inj hrun
    rw [← hattempts]
    exact List.mem_cons_of_mem _ List.mem_cons_self
  obtain ⟨htext, -⟩ := Prod.mk.inj hrun
  refine ⟨T, hrun.trans (by rw [← htext]), ?_, ?_, ?_⟩
  · rw [hattempts, hgiven, hcopied]
    rfl
  · exact honce.kept fun hsucceeds => by simpa using hsucceeds.2 _ hfailed
  · exact hattempts ▸ honce.told rfl (.call _ hfailed rfl)

end Launch

end Pinboard
