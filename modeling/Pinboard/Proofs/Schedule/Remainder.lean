import Pinboard.Proofs.Schedule.Events
import Pinboard.Proofs.Schedule.Journal

/-!
# What a check leaves

A check takes away the records that were due when it began. Records that their resolutions append
come behind them, so the first of equal records is always one that was resolved.
-/
namespace Pinboard

open Time

variable {σ : Type}

@[simp] lemma Deferred.isDue_assumeUtc (now : Timestamp) : isDue now.assumeUtc = isDue now := by
  funext d
  simp [isDue]

namespace Schedule

lemma removeAll_cons_of_ne {d : Deferred} {processed : List Deferred}
    (h : ∀ p ∈ processed, p.key ≠ d.key) (records : List Deferred) :
    removeAll processed (d :: records) = d :: removeAll processed records := by
  induction processed generalizing records with
  | nil => rfl
  | cons p processed ih =>
    have hp : Deferred.isAt p.target p.due d = false := by
      rw [Deferred.isAt_eq, Deferred.of_eq_self, decide_eq_false_iff_not]
      exact fun hsame => h p List.mem_cons_self hsame.symm
    rw [removeAll, List.foldl_cons, removeFirst, List.eraseP_cons_of_neg (by simp [hp])]
    exact ih (fun q hq => h q (List.mem_cons_of_mem _ hq)) _

lemma removeAll_cons_self (d : Deferred) (processed records : List Deferred) :
    removeAll (d :: processed) (d :: records) = removeAll processed records := by
  have hd : Deferred.isAt d.target d.due d = true := by
    rw [Deferred.isAt_eq, Deferred.of_eq_self, decide_eq_true rfl]
  rw [removeAll, List.foldl_cons, removeFirst, List.eraseP_cons_of_pos hd]
  rfl

/-- The records that are due are found where they were, whatever was appended. -/
lemma removeAll_due (now : Timestamp) (records appended : List Deferred) :
    removeAll (records.filter (Deferred.isDue now)) (records ++ appended) =
      records.filter (fun d => !d.isDue now) ++ appended := by
  induction records with
  | nil => rfl
  | cons d records ih =>
    cases hdue : d.isDue now with
    | true =>
      rw [List.filter_cons_of_pos hdue, List.filter_cons_of_neg (by simp [hdue]), List.cons_append,
        removeAll_cons_self, ih]
    | false =>
      have hothers : ∀ p ∈ records.filter (Deferred.isDue now), p.key ≠ d.key := by
        intro p hp hsame
        have hpdue := (List.mem_filter.mp hp).2
        rw [Deferred.isDue_eq hsame, hdue] at hpdue
        exact Bool.false_ne_true hpdue
      rw [List.filter_cons_of_neg (by simp [hdue]), List.filter_cons_of_pos (by simp [hdue]),
        List.cons_append, removeAll_cons_of_ne hothers, ih, List.cons_append]

lemma replay_of_cancelledIn_eq_nil {events : List Event} (h : cancelledIn events = [])
    (records : List Deferred) : replay records events = records ++ scheduledIn events := by
  induction events generalizing records with
  | nil => simp [replay, scheduledIn]
  | cons e events ih =>
    cases e with
    | scheduled d =>
      have hlater := ih h (records ++ [d])
      rw [List.append_assoc] at hlater
      exact hlater
    | cancelled d => cases h
    | resolved d => exact ih h records

/-- A check resolves the records that are due, each once and in their order, and gives them back.
If their resolutions only append records, then those that were not due are left in their order,
followed by the appended ones, and the check itself writes once or, with nothing due, not at all. -/
theorem checkDue_remainder {services : Services σ} {key : String} {value : σ → Option Json}
    {apart : σ → σ → Prop} {resolve : String → Context → Action σ String}
    (hstorage : services.storage.Keeps key value)
    (hapart : ∀ w w', apart w w' → value w' = value w)
    {records : List Deferred} {w : σ} (h : Holds services.storage key records w)
    (now : Timestamp)
    (hresolve : ∀ d ∈ records.filter (Deferred.isDue now.assumeUtc), ∀ records w,
      Holds services.storage key records w →
      ∃ events, cancelledIn events = [] ∧ Conducts services.storage key apart w events
        ((resolve d.target (Context.assemble services.settings none none [] 0)).run.run w).2) :
    ∃ events w₁ w',
      Resolutions services.storage key apart resolve services.settings
        (records.filter (Deferred.isDue now.assumeUtc)) (afterRead services.storage key w) events
        w₁ ∧
      resolvedIn events = records.filter (Deferred.isDue now.assumeUtc) ∧
      (checkDue services key resolve (some now)).run.run w =
        (.ok (records.filter (Deferred.isDue now.assumeUtc)), w') ∧
      Holds services.storage key
        (records.filter (fun d => !d.isDue now.assumeUtc) ++ scheduledIn events) w' ∧
      (∀ writes : σ → Nat, services.storage.Counts key writes →
        (∀ w w', apart w w' → writes w' = writes w) →
        writes w' = writes w + (scheduledIn events).length +
          if records.filter (Deferred.isDue now.assumeUtc) = [] then 0 else 1) ∧
      (∀ w₀, services.host.now.run.run w₀ = (.ok now, w) →
        (checkDue services key resolve none).run.run w₀ =
          (.ok (records.filter (Deferred.isDue now.assumeUtc)), w')) := by
  rw [Deferred.isDue_assumeUtc] at hresolve ⊢
  have hread := h.reread hstorage
  have hresolve' : ∀ d ∈ records.filter (Deferred.isDue now), ∀ records w,
      Holds services.storage key records w →
      ∃ events, (∀ e ∈ events, e.cancelled? = none) ∧ Conducts services.storage key apart w events
        ((resolve d.target (Context.assemble services.settings none none [] 0)).run.run w).2 := by
    intro d hd records w hholds
    obtain ⟨events, hnone, hconduct⟩ := hresolve d hd records w hholds
    exact ⟨events, List.filterMap_eq_nil_iff.mp hnone, hconduct⟩
  obtain ⟨events, w₁, hresolutions, hallowed⟩ :=
    exists_resolutions hstorage hapart (fun _ => rfl) hresolve' hread
  have hnone : cancelledIn events = [] := List.filterMap_eq_nil_iff.mpr hallowed
  obtain ⟨w', hrun, hholds, hwrites⟩ := exists_checkDue hstorage hapart h hresolutions
  rw [replay_of_cancelledIn_eq_nil hnone, removeAll_due] at hholds
  refine ⟨events, w₁, w', hresolutions, hresolutions.resolvedIn_eq, hrun, hholds,
    fun writes hcounts hquiet => ?_, fun w₀ hclock => ?_⟩
  · rw [hwrites writes hcounts hquiet, hnone]
    rfl
  · rw [checkDue_none hclock, hrun]

end Schedule

/-! ## Bells in a journal -/

namespace Journal

open Schedule

def bells : List Deferred := [bell nine, bell evening, bell nineAhead]

/-- Appends a record equal to the first bell, and then gives up. -/
def ringAgain : String → Context → Action Journal String := fun target _ => do
  let _ ← schedule storage Stored.deferredKey target nine
  throw .noPin

/-- The two bells of nine o'clock are rung at noon. The bell of the evening is left, and behind it
what the others have appended. -/
theorem checkDue_remainder_bells :
    ∃ events w', resolvedIn events = [bell nine, bell nineAhead] ∧
      (checkDue (servicesAt noon) Stored.deferredKey ringAgain (some noon)).run.run
        (holding Stored.deferredKey bells) = (.ok [bell nine, bell nineAhead], w') ∧
      Holds storage Stored.deferredKey (bell evening :: scheduledIn events) w' ∧
      writes Stored.deferredKey w' = (scheduledIn events).length + 2 := by
  have hdue : bells.filter (Deferred.isDue noon.assumeUtc) = [bell nine, bell nineAhead] := by
    decide
  have hleft : bells.filter (fun d => !d.isDue noon.assumeUtc) = [bell evening] := by decide
  have hring : ∀ d ∈ bells.filter (Deferred.isDue noon.assumeUtc), ∀ records w,
      Holds storage Stored.deferredKey records w →
      ∃ events, cancelledIn events = [] ∧ Conducts storage Stored.deferredKey Eq w events
        ((ringAgain d.target
          (Context.assemble (servicesAt noon).settings none none [] 0)).run.run w).2 := by
    intro d _ records w hholds
    have happended := hholds.schedule_eq (keeps _) d.target nine
    refine ⟨[.scheduled (.of d.target nine)], rfl, .scheduled happended ?_⟩
    rw [ringAgain, Action.run_bind_ok happended]
    exact .done
  obtain ⟨events, w₁, w', -, hresolved, hrun, hholds, hwrites, -⟩ :=
    @checkDue_remainder _ (servicesAt noon) _ _ Eq _ (keeps Stored.deferredKey)
      (fun _ _ hsame => hsame ▸ rfl) _ _ (holds_holding _ bells) noon hring
  rw [hdue] at hresolved hrun hwrites
  rw [hleft] at hholds
  refine ⟨events, w', hresolved, hrun, hholds, ?_⟩
  have hbefore : writes Stored.deferredKey (holding Stored.deferredKey bells) = 1 := by
    simp [writes, holding]
  rw [hwrites _ (counts _) (fun _ _ hsame => hsame ▸ rfl), hbefore, if_neg (by simp)]
  omega

end Journal
end Pinboard
