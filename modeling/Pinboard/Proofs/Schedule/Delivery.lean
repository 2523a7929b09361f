import Pinboard.Proofs.Schedule.Copies
import Pinboard.Proofs.Schedule.Fates

/-!
# Deliveries with a store that fails

A check resolves the records that are due before it removes them, in a second reading and a write.
If the store fails at one of these, the records are still there. They are delivered again as soon as
another check finds them.
-/
namespace Pinboard

open Time

variable {σ : Type}

/-- A store of which any call may fail. A failed write may have been made all the same. -/
structure KeyValueStore.MayFail (storage : KeyValueStore σ) (key : String)
    (value : σ → Option Json) : Prop where
  get : ∀ w, value ((storage.get? key).run.run w).2 = value w
  got : ∀ w v w', (storage.get? key).run.run w = (.ok v, w') → v = value w
  set : ∀ v w, value ((storage.set key v).run.run w).2 = value w ∨
    value ((storage.set key v).run.run w).2 = some v
  put : ∀ v w w', (storage.set key v).run.run w = (.ok (), w') → value w' = some v

namespace Schedule

/-- What a resolution may do to the stored records: it appends records and takes records away. -/
inductive Effects (value : σ → Option Json) : σ → List Event → σ → Prop
  | done {w : σ} : Effects value w [] w
  | kept {w w₁ w' : σ} {events : List Event} (h : value w₁ = value w)
      (rest : Effects value w₁ events w') : Effects value w events w'
  | change {e : Event} {records : List Deferred} {w w₁ w' : σ} {events : List Event}
      (he : e.resolved? = none) (h : recordsOf (value w) = .ok records)
      (h₁ : recordsOf (value w₁) = .ok (e.apply records))
      (rest : Effects value w₁ events w') : Effects value w (e :: events) w'

/-- An action that does no more than this to readable records, whether it fails or not. -/
def Amends {α : Type} (value : σ → Option Json) (x : Action σ α) : Prop :=
  ∀ w records, recordsOf (value w) = .ok records → ∃ events, Effects value w events (x.run.run w).2

/-- The resolutions of some records in turn, whatever becomes of them. -/
inductive Attempts (value : σ → Option Json) (resolve : String → Context → Action σ String)
    (settings : Settings) : List Deferred → σ → List Event → σ → Prop
  | nil {w : σ} : Attempts value resolve settings [] w [] w
  | cons {d : Deferred} {ds : List Deferred} {w w₁ w' : σ} {events later : List Event}
      (hrun : ((resolve d.target (Context.assemble settings none none [] 0)).run.run w).2 = w₁)
      (heffects : Effects value w events w₁)
      (rest : Attempts value resolve settings ds w₁ later w') :
      Attempts value resolve settings (d :: ds) w (.resolved d :: (events ++ later)) w'

/-- The end of a check: the records are read again and written without those that were resolved. -/
def clear (storage : KeyValueStore σ) (key : String) (processed : List Deferred) :
    Action σ Unit := do
  save storage key (removeAll processed (← load storage key))

/-- What a check does, with its outcome: it asks for the time, reads the records, resolves those
that are due and clears them away. The first two and the last may fail. -/
inductive Checked (services : Services σ) (key : String) (value : σ → Option Json)
    (resolve : String → Context → Action σ String) (now : Option Timestamp) (w : σ) :
    Except Fault (List Deferred) → Visit → σ → Prop
  | untimed {fault : Fault} {w' : σ}
      (hnow : (reference services now).run.run w = (.error fault, w')) :
      Checked services key value resolve now w (.error fault) .unread w'
  | unread {t : Timestamp} {fault : Fault} {w₀ w' : σ}
      (hnow : (reference services now).run.run w = (.ok t, w₀))
      (hload : (load services.storage key).run.run w₀ = (.error fault, w')) :
      Checked services key value resolve now w (.error fault) .unread w'
  | idle {t : Timestamp} {records : List Deferred} {w₀ w' : σ}
      (hnow : (reference services now).run.run w = (.ok t, w₀))
      (hload : (load services.storage key).run.run w₀ = (.ok records, w'))
      (hdue : records.filter (Deferred.isDue t) = []) :
      Checked services key value resolve now w (.ok []) (.made t [] true) w'
  | cleared {t : Timestamp} {records : List Deferred} {events : List Event}
      {outcome : Except Fault Unit} {w₀ w₁ w₂ w' : σ}
      (hnow : (reference services now).run.run w = (.ok t, w₀))
      (hload : (load services.storage key).run.run w₀ = (.ok records, w₁))
      (hdue : records.filter (Deferred.isDue t) ≠ [])
      (hattempts : Attempts value resolve services.settings (records.filter (Deferred.isDue t)) w₁
        events w₂)
      (hclear : (clear services.storage key (records.filter (Deferred.isDue t))).run.run w₂ =
        (outcome, w'))
      (hleft : recordsOf (value w') =
        (recordsOf (value w₂)).map (removeAll (records.filter (Deferred.isDue t)))) :
      Checked services key value resolve now w
        (outcome.map fun _ => records.filter (Deferred.isDue t)) (.made t events true) w'
  | kept {t : Timestamp} {records : List Deferred} {events : List Event} {fault : Fault}
      {w₀ w₁ w₂ w' : σ}
      (hnow : (reference services now).run.run w = (.ok t, w₀))
      (hload : (load services.storage key).run.run w₀ = (.ok records, w₁))
      (hdue : records.filter (Deferred.isDue t) ≠ [])
      (hattempts : Attempts value resolve services.settings (records.filter (Deferred.isDue t)) w₁
        events w₂)
      (hclear : (clear services.storage key (records.filter (Deferred.isDue t))).run.run w₂ =
        (.error fault, w'))
      (hleft : value w' = value w₂) :
      Checked services key value resolve now w (.error fault) (.made t events false) w'

/-- Checks one after the other, whether they fail or not. -/
inductive Checks (services : Services σ) (key : String) (value : σ → Option Json)
    (resolve : String → Context → Action σ String) : List (Option Timestamp) → σ →
    List (Except Fault (List Deferred)) → List Visit → σ → Prop
  | nil {w : σ} : Checks services key value resolve [] w [] [] w
  | cons {now : Option Timestamp} {times : List (Option Timestamp)} {w w₁ w' : σ}
      {outcome : Except Fault (List Deferred)} {outcomes : List (Except Fault (List Deferred))}
      {visit : Visit} {visits : List Visit}
      (first : Checked services key value resolve now w outcome visit w₁)
      (rest : Checks services key value resolve times w₁ outcomes visits w') :
      Checks services key value resolve (now :: times) w (outcome :: outcomes) (visit :: visits) w'

/-! ## Resolutions -/

section Effects

variable {value : σ → Option Json} {resolve : String → Context → Action σ String}
  {settings : Settings} {stored ds : List Deferred} {w w' : σ} {events : List Event}

lemma Effects.resolvedIn_eq (h : Effects value w events w') : resolvedIn events = [] := by
  induction h with
  | done => rfl
  | kept _ _ ih => exact ih
  | change he _ _ _ ih => rw [resolvedIn_cons, he, ih]; rfl

lemma Effects.records (h : Effects value w events w')
    (hrecords : recordsOf (value w) = .ok stored) :
    recordsOf (value w') = .ok (replay stored events) := by
  induction h generalizing stored with
  | done => exact hrecords
  | kept h _ ih => exact ih (by rw [h, hrecords])
  | change _ h h₁ _ ih =>
    obtain rfl := Except.ok.inj (h.symm.trans hrecords)
    exact ih h₁

lemma Effects.trans {w₁ : σ} {later : List Event} (h : Effects value w events w₁)
    (h' : Effects value w₁ later w') : Effects value w (events ++ later) w' := by
  induction h with
  | done => exact h'
  | kept h _ ih => exact .kept h (ih h')
  | change he h h₁ _ ih => exact .change he h h₁ (ih h')

lemma Effects.of_eq (h : value w' = value w) : Effects value w [] w' := .kept h .done

lemma Amends.bind {α β : Type} {x : Action σ α} {f : α → Action σ β} (hx : Amends value x)
    (hf : ∀ a, Amends value (f a)) : Amends value (x >>= f) := by
  intro w stored hrecords
  obtain ⟨events, hfirst⟩ := hx w stored hrecords
  cases hrun : x.run.run w with
  | mk result w₁ =>
    rw [hrun] at hfirst
    cases result with
    | error fault => exact ⟨events, by rwa [Action.run_bind_error hrun]⟩
    | ok a =>
      obtain ⟨later, hrest⟩ := hf a w₁ _ (hfirst.records hrecords)
      exact ⟨events ++ later, by rw [Action.run_bind_ok hrun]; exact hfirst.trans hrest⟩

lemma amends_pure {α : Type} (a : α) : Amends value (pure a : Action σ α) :=
  fun _ _ _ => ⟨[], .done⟩

lemma Attempts.resolveAll_eq (h : Attempts value resolve settings ds w events w') :
    (resolveAll resolve settings ds).run.run w = (.ok (), w') := by
  induction h with
  | nil => rfl
  | @cons d ds w w₁ w' events later hrun _ _ ih =>
    obtain ⟨text, htotal⟩ := Action.run_total_orElse
      (resolve d.target (Context.assemble settings none none [] 0)) "" w
    rw [hrun] at htotal
    rw [resolveAll, Action.run_bind_ok htotal, ih]

lemma Attempts.single {d : Deferred} {w₁ : σ}
    (hrun : ((resolve d.target (Context.assemble settings none none [] 0)).run.run w).2 = w₁)
    (heffects : Effects value w events w₁) :
    Attempts value resolve settings [d] w (.resolved d :: events) w₁ := by
  have hone : Attempts value resolve settings [d] w (.resolved d :: (events ++ [])) w₁ :=
    .cons hrun heffects .nil
  rwa [List.append_nil] at hone

lemma Attempts.resolvedIn_eq (h : Attempts value resolve settings ds w events w') :
    resolvedIn events = ds := by
  induction h with
  | nil => rfl
  | cons _ heffects _ ih => simp [heffects.resolvedIn_eq, ih]

lemma Attempts.records (h : Attempts value resolve settings ds w events w')
    (hrecords : recordsOf (value w) = .ok stored) :
    recordsOf (value w') = .ok (replay stored events) := by
  induction h generalizing stored with
  | nil => exact hrecords
  | @cons d ds w w₁ w' events later _ heffects _ ih =>
    have hlater := ih (heffects.records hrecords)
    rwa [replay, List.foldl_cons, List.foldl_append]

lemma exists_attempts (hresolve : ∀ target context, Amends value (resolve target context))
    (settings : Settings) (ds : List Deferred) (hrecords : recordsOf (value w) = .ok stored) :
    ∃ events w', Attempts value resolve settings ds w events w' := by
  induction ds generalizing stored w with
  | nil => exact ⟨[], w, .nil⟩
  | cons d ds ih =>
    obtain ⟨events, heffects⟩ := hresolve d.target
      (Context.assemble settings none none [] 0) w stored hrecords
    obtain ⟨later, w', hlater⟩ := ih (heffects.records hrecords)
    exact ⟨_, w', .cons rfl heffects hlater⟩

end Effects

/-! ## Calls of a store that may fail -/

section MayFail

variable {storage : KeyValueStore σ} {key : String} {value : σ → Option Json}
  (hstorage : storage.MayFail key value) {records processed : List Deferred} {w w' : σ}
include hstorage

lemma value_load (w : σ) : value ((load storage key).run.run w).2 = value w := by
  rw [← hstorage.get w]
  cases hget : (storage.get? key).run.run w with
  | mk result w₁ =>
    cases result with
    | error fault => rw [load_of_get_error hget]
    | ok stored => rw [load_of_get hget]

lemma recordsOf_of_load (hload : (load storage key).run.run w = (.ok records, w')) :
    recordsOf (value w) = .ok records := by
  cases hget : (storage.get? key).run.run w with
  | mk result w₁ =>
    cases result with
    | error fault =>
      rw [load_of_get_error hget] at hload
      cases (Prod.mk.inj hload).1
    | ok stored =>
      obtain rfl := hstorage.got w stored w₁ hget
      rw [load_of_get hget] at hload
      exact (Prod.mk.inj hload).1

/-- Saving leaves what was there or puts the records in its place. -/
lemma value_save (records : List Deferred) (w : σ) :
    value ((save storage key records).run.run w).2 = value w ∨
      recordsOf (value ((save storage key records).run.run w).2) = .ok records := by
  refine (hstorage.set (saved records) w).imp id fun hput => ?_
  rw [← recordsOf_saved records, ← hput]
  rfl

lemma recordsOf_of_save (hsave : (save storage key records).run.run w = (.ok (), w')) :
    recordsOf (value w') = .ok records := by
  rw [hstorage.put (saved records) w w' hsave, recordsOf_saved]

/-- What comes of reading the records and going on with them. -/
lemma value_load_bind {α : Type} {f : List Deferred → Action σ α} {P : Option Json → Prop}
    (hrecords : recordsOf (value w) = .ok records) (hkept : P (value w))
    (hf : ∀ w₁, value w₁ = value w → P (value ((f records).run.run w₁).2)) :
    P (value ((load storage key >>= f).run.run w).2) := by
  cases hload : (load storage key).run.run w with
  | mk result w₁ =>
    have hvalue : value w₁ = value w := by rw [← value_load hstorage w, hload]
    cases result with
    | error fault => rwa [Action.run_bind_error hload, hvalue]
    | ok stored =>
      obtain rfl := Except.ok.inj ((recordsOf_of_load hstorage hload).symm.trans hrecords)
      rw [Action.run_bind_ok hload]
      exact hf w₁ hvalue

/-- Saving and going on with a value leaves what saving leaves. -/
lemma value_save_bind {α : Type} (records : List Deferred) (a : α) (w : σ) :
    value ((save storage key records >>= fun _ => pure a).run.run w).2 = value w ∨
      recordsOf (value ((save storage key records >>= fun _ => pure a).run.run w).2) =
        .ok records := by
  have hsave := value_save hstorage records w
  cases hrun : (save storage key records).run.run w with
  | mk result w₁ =>
    rw [hrun] at hsave
    cases result with
    | error fault => rwa [Action.run_bind_error hrun]
    | ok _ => rwa [Action.run_bind_ok hrun]

lemma amends_schedule (target : String) (due : Timestamp) :
    Amends value (schedule storage key target due) := by
  intro w records hrecords
  have hleft : value ((schedule storage key target due).run.run w).2 = value w ∨
      recordsOf (value ((schedule storage key target due).run.run w).2) =
        .ok (records ++ [Deferred.of target due]) :=
    value_load_bind hstorage
      (P := fun v => v = value w ∨ recordsOf v = .ok (records ++ [Deferred.of target due]))
      hrecords (.inl rfl) fun w₁ hvalue => by
        rw [← hvalue]
        exact value_save_bind hstorage _ _ w₁
  rcases hleft with hkept | hput
  · exact ⟨[], .of_eq hkept⟩
  · exact ⟨[.scheduled (.of target due)], .change rfl hrecords hput .done⟩

lemma amends_cancel (target : String) (due : Timestamp) :
    Amends value (cancel storage key target due) := by
  intro w records hrecords
  have hleft : value ((cancel storage key target due).run.run w).2 = value w ∨
      recordsOf (value ((cancel storage key target due).run.run w).2) =
        .ok (removeFirst target due records) :=
    value_load_bind hstorage
      (P := fun v => v = value w ∨ recordsOf v = .ok (removeFirst target due records))
      hrecords (.inl rfl) fun w₁ hvalue => by
        rw [← hvalue]
        split
        · exact value_save_bind hstorage _ _ w₁
        · exact .inl rfl
  rcases hleft with hkept | hput
  · exact ⟨[], .of_eq hkept⟩
  · refine ⟨[.cancelled (.of target due)], .change rfl hrecords ?_ .done⟩
    rwa [Event.apply, removeFirst, Deferred.isAt_of]

lemma value_clear (processed : List Deferred) (hrecords : recordsOf (value w) = .ok records) :
    value ((clear storage key processed).run.run w).2 = value w ∨
      recordsOf (value ((clear storage key processed).run.run w).2) =
        .ok (removeAll processed records) :=
  value_load_bind hstorage
    (P := fun v => v = value w ∨ recordsOf v = .ok (removeAll processed records))
    hrecords (.inl rfl) fun w₁ hvalue => by
      rw [← hvalue]
      exact value_save hstorage _ w₁

lemma recordsOf_of_clear (hrecords : recordsOf (value w) = .ok records)
    (hclear : (clear storage key processed).run.run w = (.ok (), w')) :
    recordsOf (value w') = .ok (removeAll processed records) := by
  cases hload : (load storage key).run.run w with
  | mk result w₁ =>
    cases result with
    | error fault =>
      rw [clear, Action.run_bind_error hload] at hclear
      cases (Prod.mk.inj hclear).1
    | ok stored =>
      obtain rfl := Except.ok.inj ((recordsOf_of_load hstorage hload).symm.trans hrecords)
      rw [clear, Action.run_bind_ok hload] at hclear
      exact recordsOf_of_save hstorage hclear

end MayFail

/-! ## Checks -/

section Checks

variable {services : Services σ} {key : String} {value : σ → Option Json}
  {resolve : String → Context → Action σ String} {now : Option Timestamp}
  {outcome : Except Fault (List Deferred)} {visit : Visit} {w w' : σ}

/-- A check with something due ends as its last part ends. -/
lemma checkDue_eq_clear {t : Timestamp} {records : List Deferred} {events : List Event}
    {result : Except Fault Unit} {w₀ w₁ w₂ : σ}
    (hnow : (reference services now).run.run w = (.ok t, w₀))
    (hload : (load services.storage key).run.run w₀ = (.ok records, w₁))
    (hdue : records.filter (Deferred.isDue t) ≠ [])
    (hattempts : Attempts value resolve services.settings (records.filter (Deferred.isDue t)) w₁
      events w₂)
    (hclear : (clear services.storage key (records.filter (Deferred.isDue t))).run.run w₂ =
      (result, w')) :
    (checkDue services key resolve now).run.run w =
      (result.map fun _ => records.filter (Deferred.isDue t), w') := by
  have hempty : (records.filter (Deferred.isDue t)).isEmpty = false := by simpa using hdue
  rw [checkDue_reference hnow, checkDue, pure_bind, Action.run_bind_ok hload]
  simp only [hempty, Bool.false_eq_true, if_false]
  rw [Action.run_bind_ok hattempts.resolveAll_eq, ← bind_assoc]
  cases result with
  | error fault => exact Action.run_bind_error hclear
  | ok _ => exact Action.run_bind_ok hclear

lemma Checked.run_eq (h : Checked services key value resolve now w outcome visit w') :
    (checkDue services key resolve now).run.run w = (outcome, w') := by
  cases h with
  | untimed hnow =>
    cases now with
    | some t => cases (Prod.mk.inj hnow).1
    | none => exact Action.run_bind_error hnow
  | unread hnow hload =>
    rw [checkDue_reference hnow, checkDue, pure_bind, Action.run_bind_error hload]
  | idle hnow hload hdue =>
    rw [checkDue_reference hnow, checkDue, pure_bind, Action.run_bind_ok hload]
    simp only [hdue]
    rfl
  | cleared hnow hload hdue hattempts hclear _ =>
    exact checkDue_eq_clear hnow hload hdue hattempts hclear
  | kept hnow hload hdue hattempts hclear _ =>
    exact checkDue_eq_clear hnow hload hdue hattempts hclear

lemma run_bind_of {α β : Type} {x : StateM σ α} {f : α → StateM σ β} {a : α} {w w' : σ}
    (h : x.run w = (a, w')) : (x >>= f).run w = (f a).run w' := by
  rw [StateT.run_bind, h]
  rfl

lemma Checks.run_eq {times : List (Option Timestamp)}
    {outcomes : List (Except Fault (List Deferred))} {visits : List Visit}
    (h : Checks services key value resolve times w outcomes visits w') :
    (times.mapM fun now => (checkDue services key resolve now).outcome).run w =
      (outcomes, w') := by
  induction h with
  | nil => rfl
  | @cons now times w w₁ w' outcome outcomes visit visits first _ ih =>
    have hfirst : (checkDue services key resolve now).outcome.run w = (outcome, w₁) := first.run_eq
    rw [List.mapM_cons, run_bind_of hfirst, run_bind_of ih]
    rfl

variable (hstorage : services.storage.MayFail key value)
  (hclock : ∀ w, value (services.host.now.run.run w).2 = value w)
include hclock

lemma value_reference_run (now : Option Timestamp) (w : σ) :
    value ((reference services now).run.run w).2 = value w := by
  cases now with
  | some t => rfl
  | none => exact hclock w

include hstorage

/-- What a check leaves, and that what it resolves is what is delivered. -/
lemma Checked.records_eq (h : Checked services key value resolve now w outcome visit w') {r : Roll}
    (hrecords : recordsOf (value w) = .ok r.records) :
    recordsOf (value w') = .ok (r.visit visit).records ∧
      (r.delivered visit).map (·.record) = resolvedIn visit.events := by
  have hreference := value_reference_run hclock now w
  -- a reading that succeeds gives the records and leaves them
  have hread : ∀ {t records w₀ w₁}, (reference services now).run.run w = (.ok t, w₀) →
      (load services.storage key).run.run w₀ = (.ok records, w₁) →
      records = r.records ∧ recordsOf (value w₁) = .ok r.records := by
    intro t records w₀ w₁ hnow hload
    rw [hnow] at hreference
    have hvalue := value_load hstorage w₀
    rw [hload] at hvalue
    have hstored := recordsOf_of_load hstorage hload
    rw [hreference, hrecords] at hstored
    exact ⟨(Except.ok.inj hstored).symm, by rw [hvalue, hreference, hrecords]⟩
  cases h with
  | untimed hnow =>
    rw [hnow] at hreference
    exact ⟨by rw [hreference]; exact hrecords, rfl⟩
  | @unread t fault w₀ _ hnow hload =>
    rw [hnow] at hreference
    have hvalue := value_load hstorage w₀
    rw [hload] at hvalue
    exact ⟨by rw [hvalue, hreference]; exact hrecords, rfl⟩
  | @idle t records w₀ _ hnow hload hdue =>
    obtain ⟨rfl, hstored⟩ := hread hnow hload
    have hnone : (r.due t).map (·.record) = [] := by rw [Roll.map_record_due, hdue]
    refine ⟨?_, hnone⟩
    rw [hstored, Roll.visit, if_pos rfl, hnone]
    rfl
  | @cleared t records events result w₀ w₁ w₂ _ hnow hload _ hattempts _ hleft =>
    obtain ⟨rfl, hstored⟩ := hread hnow hload
    refine ⟨?_, by rw [Roll.delivered, Roll.map_record_due, Visit.events, hattempts.resolvedIn_eq]⟩
    rw [hleft, hattempts.records hstored, Roll.visit, if_pos rfl, Roll.records_removeAll,
      Roll.records_replay, Roll.map_record_due]
    rfl
  | @kept t records events fault w₀ w₁ w₂ _ hnow hload _ hattempts _ hleft =>
    obtain ⟨rfl, hstored⟩ := hread hnow hload
    refine ⟨?_, by rw [Roll.delivered, Roll.map_record_due, Visit.events, hattempts.resolvedIn_eq]⟩
    rw [hleft, hattempts.records hstored, Roll.visit, if_neg Bool.false_ne_true,
      Roll.records_replay]

/-- Over a run of checks as well. -/
lemma Checks.records_eq {times : List (Option Timestamp)}
    {outcomes : List (Except Fault (List Deferred))} {visits : List Visit}
    (h : Checks services key value resolve times w outcomes visits w') {r : Roll}
    (hrecords : recordsOf (value w) = .ok r.records) :
    recordsOf (value w') = .ok (r.visitAll visits).records ∧
      (r.deliveries visits).map (·.record) = resolvedIn (visits.flatMap Visit.events) := by
  induction h generalizing r with
  | nil => exact ⟨hrecords, rfl⟩
  | cons first _ ih =>
    obtain ⟨hleft, hresolved⟩ := first.records_eq hstorage hclock hrecords
    obtain ⟨hleft', hresolved'⟩ := ih hleft
    refine ⟨hleft', ?_⟩
    rw [Roll.deliveries, List.map_append, List.flatMap_cons, resolvedIn_append, hresolved,
      hresolved']

variable (hresolve : ∀ target context, Amends value (resolve target context))
include hresolve

lemma exists_checked {records : List Deferred} (hrecords : recordsOf (value w) = .ok records)
    (now : Option Timestamp) :
    ∃ outcome visit w', Checked services key value resolve now w outcome visit w' := by
  have hreference := value_reference_run hclock now w
  cases hnow : (reference services now).run.run w with
  | mk result w₀ =>
    rw [hnow] at hreference
    cases result with
    | error fault => exact ⟨_, _, _, .untimed hnow⟩
    | ok t =>
      have hvalue := value_load hstorage w₀
      cases hload : (load services.storage key).run.run w₀ with
      | mk loaded w₁ =>
        rw [hload] at hvalue
        cases loaded with
        | error fault => exact ⟨_, _, _, .unread hnow hload⟩
        | ok stored =>
          have hstored : recordsOf (value w₁) = .ok records := by rw [hvalue, hreference, hrecords]
          by_cases hdue : stored.filter (Deferred.isDue t) = []
          · exact ⟨_, _, _, .idle hnow hload hdue⟩
          · obtain ⟨events, w₂, hattempts⟩ := exists_attempts hresolve services.settings
              (stored.filter (Deferred.isDue t)) hstored
            have hlater := hattempts.records hstored
            rcases hclear :
              (clear services.storage key (stored.filter (Deferred.isDue t))).run.run w₂
              with ⟨_ | _, w'⟩
            · have hleft := value_clear hstorage (stored.filter (Deferred.isDue t)) hlater
              rw [hclear] at hleft
              rcases hleft with hkept | hput
              · exact ⟨_, _, _, .kept hnow hload hdue hattempts hclear hkept⟩
              · exact ⟨_, _, _, .cleared hnow hload hdue hattempts hclear
                  (by rw [hput, hlater]; rfl)⟩
            · have hput := recordsOf_of_clear hstorage hlater hclear
              exact ⟨_, _, _, .cleared hnow hload hdue hattempts hclear
                (by rw [hput, hlater]; rfl)⟩

lemma exists_checks {records : List Deferred} (hrecords : recordsOf (value w) = .ok records)
    (times : List (Option Timestamp)) :
    ∃ outcomes visits w', Checks services key value resolve times w outcomes visits w' := by
  induction times generalizing records w with
  | nil => exact ⟨[], [], w, .nil⟩
  | cons now times ih =>
    obtain ⟨outcome, visit, w₁, hfirst⟩ :=
      exists_checked hstorage hclock hresolve hrecords now
    have hleft := (hfirst.records_eq hstorage hclock (r := .ofRecords records)
      (by rw [hrecords, Roll.records_ofRecords])).1
    obtain ⟨outcomes, visits, w', hrest⟩ := ih hleft
    exact ⟨_, _, _, .cons hfirst hrest⟩

end Checks

/-- Checks with a store of which any call may fail, while resolutions append records and take
records away. Whatever fails, the run is one of visits to the copies of the records. No copy's
target is resolved twice just when every copy whose visit failed to clear it away is spared: it is
cancelled, or no later check finds it due. -/
theorem checks_deliver {services : Services σ} {key : String} {value : σ → Option Json}
    {resolve : String → Context → Action σ String} (hstorage : services.storage.MayFail key value)
    (hclock : ∀ w, value (services.host.now.run.run w).2 = value w)
    (hresolve : ∀ target context, Amends value (resolve target context))
    {records : List Deferred} {w : σ} (hrecords : recordsOf (value w) = .ok records)
    (times : List (Option Timestamp)) :
    (∃ outcomes visits w', Checks services key value resolve times w outcomes visits w') ∧
    ∀ outcomes visits w', Checks services key value resolve times w outcomes visits w' →
      (times.mapM fun now => (checkDue services key resolve now).outcome).run w = (outcomes, w') ∧
      recordsOf (value w') = .ok ((Roll.ofRecords records).visitAll visits).records ∧
      ((Roll.ofRecords records).deliveries visits).map (·.record) =
        resolvedIn (visits.flatMap Visit.events) ∧
      (((Roll.ofRecords records).deliveries visits).Nodup ↔
        (Roll.ofRecords records).Spared visits) := by
  refine ⟨exists_checks hstorage hclock hresolve hrecords times, fun outcomes visits w' h => ?_⟩
  obtain ⟨hleft, hresolved⟩ := h.records_eq hstorage hclock (r := .ofRecords records)
    (by rw [hrecords, Roll.records_ofRecords])
  exact ⟨h.run_eq, hleft, hresolved, Roll.nodup_deliveries_iff _ _⟩

end Schedule

/-! ## A journal with an end -/

namespace Journal

open Schedule

/-- The fault of a journal without room. -/
def full : Fault := .storage "write" "the journal is full"

/-- A store that takes as many entries as a journal has room for. -/
def bounded (room : Nat) : KeyValueStore Journal where
  get? := storage.get?
  set := fun key v => do if room ≤ (← get).length then throw full else storage.set key v
  erase := storage.erase

lemma bounded_set_run (room : Nat) (key : String) (v : Json) (w : Journal) :
    ((bounded room).set key v).run.run w =
      if room ≤ w.length then (.error full, w) else (.ok (), (key, v) :: w) := by
  change (if room ≤ w.length then throw full else storage.set key v : Action Journal Unit).run.run w
    = _
  split_ifs <;> rfl

lemma bounded_mayFail (room : Nat) (key : String) :
    (bounded room).MayFail key (Fields.get? key) where
  get _ := rfl
  got _ _ _ h := (Except.ok.inj (Prod.mk.inj h).1).symm
  set v w := by
    rw [bounded_set_run]
    split_ifs
    · exact .inl rfl
    · exact .inr (if_pos rfl)
  put v w w' h := by
    rw [bounded_set_run] at h
    split_ifs at h
    · cases (Prod.mk.inj h).1
    · obtain rfl := (Prod.mk.inj h).2
      exact if_pos rfl

/-- The services of a journal with an end. -/
def boundedAt (room : Nat) (now : Timestamp) : Services Journal :=
  { servicesAt now with storage := bounded room }

section Bounded

variable {room : Nat} {key : String} {records : List Deferred} {w : Journal}

lemma recordsOf_written (key : String) (records : List Deferred) (w : Journal) :
    recordsOf (Fields.get? key ((key, saved records) :: w)) = .ok records := by
  rw [Fields.get?, if_pos rfl, recordsOf_saved]

lemma bounded_load (room : Nat) (h : recordsOf (w.get? key) = .ok records) :
    (load (bounded room) key).run.run w = (.ok records, w) := by
  have hget : ((bounded room).get? key).run.run w = (.ok (w.get? key), w) := rfl
  rw [load_of_get hget, h]

lemma bounded_save (hroom : ¬room ≤ w.length) :
    (save (bounded room) key records).run.run w = (.ok (), (key, saved records) :: w) :=
  (bounded_set_run room key (saved records) w).trans (if_neg hroom)

lemma bounded_save_full (hroom : room ≤ w.length) :
    (save (bounded room) key records).run.run w = (.error full, w) :=
  (bounded_set_run room key (saved records) w).trans (if_pos hroom)

end Bounded

/-- Rings a bell, and puts that down. -/
def ringOut : String → Context → Action Journal String := fun target _ => do
  modify fun journal => ("rung", .str target) :: journal
  pure target

/-- A check that finds the bell of nine o'clock in a journal that is full. -/
lemma checked_ringOut {w : Journal}
    (hrecords : recordsOf (w.get? Stored.deferredKey) = .ok [bell nine]) :
    Checked (boundedAt 1 noon) Stored.deferredKey (Fields.get? Stored.deferredKey) ringOut
      (some noon) w (.error full) (.made noon [.resolved (bell nine)] false)
      (("rung", .str "ring") :: w) := by
  have hdue : [bell nine].filter (Deferred.isDue noon) = [bell nine] := by decide
  have hrung : recordsOf (Fields.get? Stored.deferredKey (("rung", .str "ring") :: w)) =
      .ok [bell nine] := by
    rw [Fields.get?, if_neg (by decide), hrecords]
  have hclear : (clear (bounded 1) Stored.deferredKey [bell nine]).run.run
      (("rung", .str "ring") :: w) = (.error full, ("rung", .str "ring") :: w) := by
    rw [clear, Action.run_bind_ok (bounded_load 1 hrung)]
    exact bounded_save_full (by simp)
  refine .kept (t := noon) rfl (bounded_load 1 hrecords) (by rw [hdue]; simp) ?_ ?_ rfl
  · rw [hdue]
    exact .single rfl (.of_eq (if_neg (by decide)))
  · rw [hdue]
    exact hclear

/-- In a journal that takes no more entries, the bell of nine o'clock is there once and no other is
set. It is rung twice by two checks at noon. -/
theorem full_journal_rings_twice :
    ∃ visits, Checks (boundedAt 1 noon) Stored.deferredKey (Fields.get? Stored.deferredKey) ringOut
        [some noon, some noon] (holding Stored.deferredKey [bell nine])
        [.error full, .error full] visits
        (("rung", .str "ring") :: ("rung", .str "ring") ::
          holding Stored.deferredKey [bell nine]) ∧
      (Roll.ofRecords [bell nine]).deliveries visits = [⟨0, bell nine⟩, ⟨0, bell nine⟩] := by
  have hfirst : recordsOf (Fields.get? Stored.deferredKey
      (holding Stored.deferredKey [bell nine])) = .ok [bell nine] := recordsOf_written _ _ _
  have hsecond : recordsOf (Fields.get? Stored.deferredKey
      (("rung", .str "ring") :: holding Stored.deferredKey [bell nine])) = .ok [bell nine] := by
    rw [Fields.get?, if_neg (by decide), hfirst]
  exact ⟨_, .cons (checked_ringOut hfirst)
    (.cons (checked_ringOut hsecond) .nil), by decide⟩

/-- Puts a bell off to the evening, where it is set only once. -/
def putOff (room : Nat) : String → Context → Action Journal String := fun target _ => do
  let _ ← cancel (bounded room) Stored.deferredKey target evening
  let _ ← schedule (bounded room) Stored.deferredKey target evening
  pure target

lemma amends_putOff (room : Nat) (target : String) (context : Context) :
    Amends (Fields.get? Stored.deferredKey) (putOff room target context) :=
  have hstorage := bounded_mayFail room Stored.deferredKey
  (amends_cancel hstorage target evening).bind fun _ =>
    (amends_schedule hstorage target evening).bind fun _ => amends_pure target

/-- A journal with the bell of nine o'clock, then with that of the evening as well, then with the
latter alone. -/
def putOffOnce : Journal :=
  (Stored.deferredKey, saved [bell evening]) ::
    (Stored.deferredKey, saved [bell nine, bell evening]) ::
    holding Stored.deferredKey [bell nine]

lemma checked_putOff :
    Checked (boundedAt 3 noon) Stored.deferredKey (Fields.get? Stored.deferredKey) (putOff 3)
      (some noon) (holding Stored.deferredKey [bell nine]) (.ok [bell nine])
      (.made noon [.resolved (bell nine), .scheduled (bell evening)] true) putOffOnce := by
  have hdue : [bell nine].filter (Deferred.isDue noon) = [bell nine] := by decide
  have hleft : removeAll [bell nine] [bell nine, bell evening] = [bell evening] := by decide
  have hload : (load (bounded 3) Stored.deferredKey).run.run
      (holding Stored.deferredKey [bell nine]) =
      (.ok [bell nine], holding Stored.deferredKey [bell nine]) :=
    bounded_load 3 (recordsOf_written _ _ _)
  have hcancel : (cancel (bounded 3) Stored.deferredKey "ring" evening).run.run
      (holding Stored.deferredKey [bell nine]) =
      (.ok false, holding Stored.deferredKey [bell nine]) := by
    rw [cancel, Action.run_bind_ok hload, if_neg (by decide)]
    rfl
  have hschedule : (schedule (bounded 3) Stored.deferredKey "ring" evening).run.run
      (holding Stored.deferredKey [bell nine]) = (.ok ("ring", evening),
        (Stored.deferredKey, saved [bell nine, bell evening])
          :: holding Stored.deferredKey [bell nine]) := by
    rw [schedule, Action.run_bind_ok hload, Action.run_bind_ok (bounded_save (by decide))]
    rfl
  have hrun : ((putOff 3 "ring" (Context.assemble Settings.default none none [] 0)).run.run
      (holding Stored.deferredKey [bell nine])).2 =
      (Stored.deferredKey, saved [bell nine, bell evening])
        :: holding Stored.deferredKey [bell nine] := by
    rw [putOff, Action.run_bind_ok hcancel, Action.run_bind_ok hschedule]
    rfl
  have hclear : (clear (bounded 3) Stored.deferredKey [bell nine]).run.run
      ((Stored.deferredKey, saved [bell nine, bell evening])
        :: holding Stored.deferredKey [bell nine]) = (.ok (), putOffOnce) := by
    rw [clear, Action.run_bind_ok (bounded_load 3 (recordsOf_written _ _ _)), hleft]
    exact bounded_save (by decide)
  have heffects : Effects (Fields.get? Stored.deferredKey) (holding Stored.deferredKey [bell nine])
      [.scheduled (bell evening)] ((Stored.deferredKey, saved [bell nine, bell evening])
        :: holding Stored.deferredKey [bell nine]) :=
    .change rfl (recordsOf_written _ [bell nine] [])
      (recordsOf_written _ [bell nine, bell evening] _) .done
  have hstored : recordsOf (Fields.get? Stored.deferredKey putOffOnce) =
      (recordsOf (Fields.get? Stored.deferredKey ((Stored.deferredKey,
        saved [bell nine, bell evening]) :: holding Stored.deferredKey [bell nine]))).map
        (removeAll [bell nine]) := by
    rw [putOffOnce, recordsOf_written, recordsOf_written, Except.map, hleft]
  have hnow : (reference (boundedAt 3 noon) (some noon)).run.run
      (holding Stored.deferredKey [bell nine]) =
      (.ok noon, holding Stored.deferredKey [bell nine]) := rfl
  have hchecked := @Checked.cleared _ (boundedAt 3 noon) Stored.deferredKey
    (Fields.get? Stored.deferredKey) (putOff 3) _ _ _ _ _ _ _ _ _ _ hnow hload
    (by rw [hdue]; exact List.cons_ne_nil _ _) (by rw [hdue]; exact .single hrun heffects)
    (by rw [hdue]; exact hclear) (by rw [hdue]; exact hstored)
  rwa [hdue] at hchecked

lemma checked_putOff_full :
    Checked (boundedAt 3 noon) Stored.deferredKey (Fields.get? Stored.deferredKey) (putOff 3)
      (some evening) putOffOnce (.error full) (.made evening [.resolved (bell evening)] false)
      putOffOnce := by
  have hdue : [bell evening].filter (Deferred.isDue evening) = [bell evening] := by decide
  have hload : (load (bounded 3) Stored.deferredKey).run.run putOffOnce =
      (.ok [bell evening], putOffOnce) := bounded_load 3 (recordsOf_written _ _ _)
  have hcancel : (cancel (bounded 3) Stored.deferredKey "ring" evening).run.run putOffOnce =
      (.error full, putOffOnce) := by
    rw [cancel, Action.run_bind_ok hload, if_pos (by decide)]
    exact Action.run_bind_error (bounded_save_full (by decide))
  have hrun : ((putOff 3 "ring" (Context.assemble Settings.default none none [] 0)).run.run
      putOffOnce).2 = putOffOnce := by
    rw [putOff, Action.run_bind_error hcancel]
  have hclear : (clear (bounded 3) Stored.deferredKey [bell evening]).run.run putOffOnce =
      (.error full, putOffOnce) := by
    rw [clear, Action.run_bind_ok hload]
    exact bounded_save_full (by decide)
  have hattempts : Attempts (Fields.get? Stored.deferredKey) (putOff 3) Settings.default
      [bell evening] putOffOnce [.resolved (bell evening)] putOffOnce := .single hrun .done
  have hnow : (reference (boundedAt 3 noon) (some evening)).run.run putOffOnce =
      (.ok evening, putOffOnce) := rfl
  refine .kept hnow hload ?_ ?_ ?_ rfl
  · rw [hdue]
    exact List.cons_ne_nil _ _
  · rw [hdue]
    exact hattempts
  · rw [hdue]
    exact hclear

/-- With room for two more entries, the bell of nine o'clock is put off at noon. In the evening it
can be neither set again nor cleared away, but no later check rings it: each bell was rung once. -/
theorem checks_deliver_putOff :
    ∃ visits, Checks (boundedAt 3 noon) Stored.deferredKey (Fields.get? Stored.deferredKey)
        (putOff 3) [some noon, some evening] (holding Stored.deferredKey [bell nine])
        [.ok [bell nine], .error full] visits putOffOnce ∧
      resolvedIn (visits.flatMap Visit.events) = [bell nine, bell evening] ∧
      ((Roll.ofRecords [bell nine]).deliveries visits).Nodup := by
  have hrun := Checks.cons checked_putOff (.cons checked_putOff_full .nil)
  refine ⟨_, hrun, rfl, ?_⟩
  obtain ⟨-, hall⟩ := @checks_deliver _ (boundedAt 3 noon) _ _ _
    (bounded_mayFail 3 Stored.deferredKey) (fun _ => rfl) (amends_putOff 3) _ _
    (recordsOf_written Stored.deferredKey [bell nine] []) [some noon, some evening]
  obtain ⟨-, -, -, hspared⟩ := hall _ _ _ hrun
  refine hspared.mpr ?_
  rw [Roll.spared_cons, Roll.spared_cons]
  exact ⟨nofun, fun _ => List.disjoint_nil_right _, Roll.spared_nil _⟩

end Journal

end Pinboard
