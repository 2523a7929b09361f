import Pinboard.Proofs.Schedule.Records

/-!
# What happens to the schedule

Records are appended, removed on demand and resolved. A check of the schedule resolves the records
that are due one by one; what their resolutions do to the schedule meanwhile is a list of events.
-/
namespace Pinboard.Schedule

open Time

variable {σ : Type}

inductive Event where
  /-- A record was appended. -/
  | scheduled (d : Deferred)
  /-- A call removed a record with this text and moment. -/
  | cancelled (d : Deferred)
  /-- A check began to resolve a record. -/
  | resolved (d : Deferred)

namespace Event

@[simp] def scheduled? : Event → Option Deferred
  | .scheduled d => some d
  | _ => none

@[simp] def cancelled? : Event → Option Deferred
  | .cancelled d => some d
  | _ => none

@[simp] def resolved? : Event → Option Deferred
  | .resolved d => some d
  | _ => none

/-- The stored records after an event. -/
def apply (records : List Deferred) : Event → List Deferred
  | .scheduled d => records ++ [d]
  | .cancelled d => removeFirst d.target d.due records
  | .resolved _ => records

end Event

def scheduledIn (events : List Event) : List Deferred := events.filterMap Event.scheduled?

def cancelledIn (events : List Event) : List Deferred := events.filterMap Event.cancelled?

def resolvedIn (events : List Event) : List Deferred := events.filterMap Event.resolved?

@[simp] lemma scheduledIn_nil : scheduledIn [] = [] := rfl

@[simp] lemma cancelledIn_nil : cancelledIn [] = [] := rfl

@[simp] lemma resolvedIn_nil : resolvedIn [] = [] := rfl

@[simp] lemma scheduledIn_cons (e : Event) (events : List Event) :
    scheduledIn (e :: events) = e.scheduled?.toList ++ scheduledIn events := by
  cases e <;> rfl

@[simp] lemma cancelledIn_cons (e : Event) (events : List Event) :
    cancelledIn (e :: events) = e.cancelled?.toList ++ cancelledIn events := by
  cases e <;> rfl

@[simp] lemma resolvedIn_cons (e : Event) (events : List Event) :
    resolvedIn (e :: events) = e.resolved?.toList ++ resolvedIn events := by
  cases e <;> rfl

@[simp] lemma scheduledIn_append (events later : List Event) :
    scheduledIn (events ++ later) = scheduledIn events ++ scheduledIn later :=
  List.filterMap_append

@[simp] lemma cancelledIn_append (events later : List Event) :
    cancelledIn (events ++ later) = cancelledIn events ++ cancelledIn later :=
  List.filterMap_append

@[simp] lemma resolvedIn_append (events later : List Event) :
    resolvedIn (events ++ later) = resolvedIn events ++ resolvedIn later :=
  List.filterMap_append

/-- The stored records after some events. -/
def replay (records : List Deferred) (events : List Event) : List Deferred :=
  events.foldl Event.apply records

/-- What a resolution may do: any number of calls that append or remove a record and, between them,
anything that stands apart from the schedule. -/
inductive Conducts (storage : KeyValueStore σ) (key : String) (apart : σ → σ → Prop) :
    σ → List Event → σ → Prop
  | done {w : σ} : Conducts storage key apart w [] w
  | other {w w₁ w' : σ} {events : List Event} (h : apart w w₁)
      (rest : Conducts storage key apart w₁ events w') : Conducts storage key apart w events w'
  | scheduled {target : String} {due : Timestamp} {handle : String × Timestamp} {w w₁ w' : σ}
      {events : List Event} (h : (schedule storage key target due).run.run w = (.ok handle, w₁))
      (rest : Conducts storage key apart w₁ events w') :
      Conducts storage key apart w (.scheduled (.of target due) :: events) w'
  | cancelled {target : String} {due : Timestamp} {w w₁ w' : σ} {events : List Event}
      (h : (cancel storage key target due).run.run w = (.ok true, w₁))
      (rest : Conducts storage key apart w₁ events w') :
      Conducts storage key apart w (.cancelled (.of target due) :: events) w'
  | missed {target : String} {due : Timestamp} {w w₁ w' : σ} {events : List Event}
      (h : (cancel storage key target due).run.run w = (.ok false, w₁))
      (rest : Conducts storage key apart w₁ events w') : Conducts storage key apart w events w'

/-- The resolutions of some records, one for each record in turn, whatever becomes of them. -/
inductive Resolutions (storage : KeyValueStore σ) (key : String) (apart : σ → σ → Prop)
    (resolve : String → Context → Action σ String) (settings : Settings) :
    List Deferred → σ → List Event → σ → Prop
  | nil {w : σ} : Resolutions storage key apart resolve settings [] w [] w
  | cons {d : Deferred} {ds : List Deferred} {w w₁ w' : σ} {events later : List Event}
      (hrun : ((resolve d.target (Context.assemble settings none none [] 0)).run.run w).2 = w₁)
      (hconduct : Conducts storage key apart w events w₁)
      (rest : Resolutions storage key apart resolve settings ds w₁ later w') :
      Resolutions storage key apart resolve settings (d :: ds) w
        (.resolved d :: (events ++ later)) w'

section Stored

variable {storage : KeyValueStore σ} {key : String} {value : σ → Option Json}
  {apart : σ → σ → Prop} {resolve : String → Context → Action σ String} {settings : Settings}
  {records : List Deferred} {ds : List Deferred} {w w' : σ} {events : List Event}

lemma Resolutions.resolveAll_eq
    (h : Resolutions storage key apart resolve settings ds w events w') :
    (resolveAll resolve settings ds).run.run w = (.ok (), w') := by
  induction h with
  | nil => rfl
  | @cons d ds w w₁ w' events later hrun _ _ ih =>
    obtain ⟨text, htotal⟩ := Action.run_total_orElse
      (resolve d.target (Context.assemble settings none none [] 0)) "" w
    rw [hrun] at htotal
    rw [resolveAll, Action.run_bind_ok htotal, ih]

lemma Conducts.resolvedIn_eq (h : Conducts storage key apart w events w') :
    resolvedIn events = [] := by
  induction h with
  | done => rfl
  | other _ _ ih | scheduled _ _ ih | cancelled _ _ ih | missed _ _ ih => exact ih

lemma Resolutions.resolvedIn_eq
    (h : Resolutions storage key apart resolve settings ds w events w') :
    resolvedIn events = ds := by
  induction h with
  | nil => rfl
  | cons _ hconduct _ ih => simp [hconduct.resolvedIn_eq, ih]

variable (hstorage : storage.Keeps key value) (hapart : ∀ w w', apart w w' → value w' = value w)
include hstorage hapart

lemma Conducts.holds (h : Conducts storage key apart w events w')
    (hholds : Holds storage key records w) : Holds storage key (replay records events) w' := by
  induction h generalizing records with
  | done => exact hholds
  | other h _ ih => exact ih (hholds.of_value hstorage (hapart _ _ h))
  | scheduled h _ ih =>
    obtain rfl := hholds.of_schedule hstorage h
    exact ih (holds_afterSave hstorage _ _)
  | cancelled h _ ih =>
    obtain ⟨-, rfl⟩ := hholds.of_cancel_true hstorage h
    rw [replay, List.foldl_cons, Event.apply, removeFirst, Deferred.isAt_of]
    exact ih (holds_afterSave hstorage _ _)
  | missed h _ ih =>
    obtain ⟨-, rfl⟩ := hholds.of_cancel_false hstorage h
    exact ih (hholds.reread hstorage)

lemma Resolutions.holds (h : Resolutions storage key apart resolve settings ds w events w')
    (hholds : Holds storage key records w) : Holds storage key (replay records events) w' := by
  induction h generalizing records with
  | nil => exact hholds
  | @cons d ds w w₁ w' events later _ hconduct _ ih =>
    have hlater := ih (hconduct.holds hstorage hapart hholds)
    rwa [replay, List.foldl_cons, List.foldl_append]

/-- Where every resolution does only what is allowed, the records can be resolved in turn. -/
lemma exists_resolutions {allowed : Event → Prop} (hresolved : ∀ d, allowed (.resolved d))
    (hresolve : ∀ d ∈ ds, ∀ records w, Holds storage key records w →
      ∃ events, (∀ e ∈ events, allowed e) ∧ Conducts storage key apart w events
        ((resolve d.target (Context.assemble settings none none [] 0)).run.run w).2)
    (hholds : Holds storage key records w) :
    ∃ events w', Resolutions storage key apart resolve settings ds w events w' ∧
      ∀ e ∈ events, allowed e := by
  induction ds generalizing records w with
  | nil => exact ⟨[], w, .nil, by simp⟩
  | cons d ds ih =>
    obtain ⟨events, hallowed, hconduct⟩ := hresolve d List.mem_cons_self records w hholds
    obtain ⟨later, w', hlater, hallowed'⟩ := ih
      (fun d' hd' => hresolve d' (List.mem_cons_of_mem _ hd'))
      (hconduct.holds hstorage hapart hholds)
    refine ⟨_, w', .cons rfl hconduct hlater, fun e he => ?_⟩
    rcases List.mem_cons.mp he with rfl | he
    · exact hresolved d
    · exact (List.mem_append.mp he).elim (hallowed e) (hallowed' e)

section Writes

variable {writes : σ → Nat} (hcounts : storage.Counts key writes)
  (hquiet : ∀ w w', apart w w' → writes w' = writes w)
include hcounts hquiet

/-- Every record that is appended or removed is one write. -/
lemma Conducts.writes_eq (h : Conducts storage key apart w events w')
    (hholds : Holds storage key records w) :
    writes w' = writes w + (scheduledIn events).length + (cancelledIn events).length := by
  induction h generalizing records with
  | done => rfl
  | other h _ ih =>
    rw [ih (hholds.of_value hstorage (hapart _ _ h)), hquiet _ _ h]
  | scheduled h _ ih =>
    obtain rfl := hholds.of_schedule hstorage h
    rw [ih (holds_afterSave hstorage _ _), writes_afterSave hcounts, writes_afterRead hcounts]
    simp
    omega
  | cancelled h _ ih =>
    obtain ⟨-, rfl⟩ := hholds.of_cancel_true hstorage h
    rw [ih (holds_afterSave hstorage _ _), writes_afterSave hcounts, writes_afterRead hcounts]
    simp
    omega
  | missed h _ ih =>
    obtain ⟨-, rfl⟩ := hholds.of_cancel_false hstorage h
    rw [ih (hholds.reread hstorage), writes_afterRead hcounts]

lemma Resolutions.writes_eq (h : Resolutions storage key apart resolve settings ds w events w')
    (hholds : Holds storage key records w) :
    writes w' = writes w + (scheduledIn events).length + (cancelledIn events).length := by
  induction h generalizing records with
  | nil => rfl
  | @cons d ds w w₁ w' events later _ hconduct _ ih =>
    rw [ih (hconduct.holds hstorage hapart hholds),
      hconduct.writes_eq hstorage hapart hcounts hquiet hholds]
    simp
    omega

end Writes

end Stored

section Check

variable {services : Services σ} {key : String} {value : σ → Option Json} {apart : σ → σ → Prop}
  {resolve : String → Context → Action σ String} {records : List Deferred} {w w' : σ}
  {events : List Event}

/-- Without a reference time, the clock is read first. -/
lemma checkDue_none {now : Timestamp} (hclock : services.host.now.run.run w = (.ok now, w')) :
    (checkDue services key resolve none).run.run w =
      (checkDue services key resolve (some now)).run.run w' := by
  unfold checkDue
  rw [Action.run_bind_ok hclock]
  rfl

variable (hstorage : services.storage.Keeps key value)
  (hapart : ∀ w w', apart w w' → value w' = value w)
  (hholds : Holds services.storage key records w) {now : Timestamp}
include hstorage hholds

lemma checkDue_eq_nil (resolve : String → Context → Action σ String)
    (hnone : records.filter (Deferred.isDue now) = []) :
    (checkDue services key resolve (some now)).run.run w =
      (.ok [], afterRead services.storage key w) := by
  rw [checkDue, pure_bind, Action.run_bind_ok (hholds.load_eq hstorage)]
  simp only [hnone]
  rfl

include hapart

lemma checkDue_eq (hsome : records.filter (Deferred.isDue now) ≠ [])
    (h : Resolutions services.storage key apart resolve services.settings
      (records.filter (Deferred.isDue now)) (afterRead services.storage key w) events w') :
    (checkDue services key resolve (some now)).run.run w =
      (.ok (records.filter (Deferred.isDue now)),
        afterSave services.storage key
          (removeAll (records.filter (Deferred.isDue now)) (replay records events))
          (afterRead services.storage key w')) := by
  have hlater : Holds services.storage key (replay records events) w' :=
    h.holds hstorage hapart (hholds.reread hstorage)
  have hempty : (records.filter (Deferred.isDue now)).isEmpty = false := by simpa using hsome
  rw [checkDue, pure_bind, Action.run_bind_ok (hholds.load_eq hstorage)]
  simp only [hempty, Bool.false_eq_true, if_false]
  rw [Action.run_bind_ok h.resolveAll_eq, Action.run_bind_ok (hlater.load_eq hstorage),
    Action.run_bind_ok (save_eq hstorage _ _)]
  rfl

/-- A check resolves the records that are due and then removes as many from what is stored. It
writes once itself, or not at all with nothing due. -/
lemma exists_checkDue
    (h : Resolutions services.storage key apart resolve services.settings
      (records.filter (Deferred.isDue now)) (afterRead services.storage key w) events w') :
    ∃ w'', (checkDue services key resolve (some now)).run.run w =
        (.ok (records.filter (Deferred.isDue now)), w'') ∧
      Holds services.storage key
        (removeAll (records.filter (Deferred.isDue now)) (replay records events)) w'' ∧
      ∀ writes : σ → Nat, services.storage.Counts key writes →
        (∀ w w', apart w w' → writes w' = writes w) →
        writes w'' = writes w + (scheduledIn events).length + (cancelledIn events).length +
          if records.filter (Deferred.isDue now) = [] then 0 else 1 := by
  by_cases hdue : records.filter (Deferred.isDue now) = []
  · rw [hdue] at h ⊢
    cases h
    exact ⟨_, checkDue_eq_nil hstorage hholds resolve hdue, hholds.reread hstorage,
      fun _ hcounts _ => writes_afterRead hcounts w⟩
  · refine ⟨_, checkDue_eq hstorage hapart hholds hdue h, holds_afterSave hstorage _ _,
      fun writes hcounts hquiet => ?_⟩
    rw [writes_afterSave hcounts, writes_afterRead hcounts, if_neg hdue,
      h.writes_eq hstorage hapart hcounts hquiet (hholds.reread hstorage), writes_afterRead hcounts]

end Check

end Pinboard.Schedule
