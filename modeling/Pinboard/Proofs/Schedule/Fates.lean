import Mathlib.Algebra.Order.Group.Multiset
import Pinboard.Proofs.Schedule.Events
import Pinboard.Proofs.Schedule.Journal

/-!
# Fates of records

A record is created by a call that appends it, and ends by being resolved or by being removed on
demand. Records with equal text and moment are not told apart, so records are counted under these.
-/
namespace Pinboard.Schedule

open Time

variable {σ : Type}

/-- Texts and moments, each as often as there are records with them. -/
def keys (records : List Deferred) : Multiset (String × Int) := records.map Deferred.key

/-- The records that have no end yet, from those that had none before: a new record is added, one
that is cancelled or resolved goes. Nothing, if one is to go that is not there. -/
def settle (live : Multiset (String × Int)) : List Event → Option (Multiset (String × Int))
  | [] => some live
  | .scheduled d :: events => settle (d.key ::ₘ live) events
  | .cancelled d :: events => if d.key ∈ live then settle (live.erase d.key) events else none
  | .resolved d :: events => if d.key ∈ live then settle (live.erase d.key) events else none

/-- Whether no call removes a record with the text and moment of one that is resolved. -/
def Undisturbed (events : List Event) : Prop :=
  ∀ d ∈ cancelledIn events, d.key ∉ keys (resolvedIn events)

/-! ## Settling -/

lemma settle_append (live : Multiset (String × Int)) (events later : List Event) :
    settle live (events ++ later) = (settle live events).bind (settle · later) := by
  induction events generalizing live with
  | nil => rfl
  | cons e events ih =>
    cases e with
    | scheduled d => exact ih _
    | cancelled d | resolved d =>
      simp only [List.cons_append, settle]
      split_ifs
      · exact ih _
      · rfl

/-- Records that no event touches stay. -/
lemma settle_add {live live' : Multiset (String × Int)} {events : List Event}
    (h : settle live events = some live') (others : Multiset (String × Int)) :
    settle (live + others) events = some (live' + others) := by
  induction events generalizing live with
  | nil =>
    obtain rfl := Option.some.inj h
    rfl
  | cons e events ih =>
    cases e with
    | scheduled d =>
      rw [settle, ← Multiset.cons_add]
      exact ih h
    | cancelled d | resolved d =>
      rw [settle] at h ⊢
      split_ifs at h with hd
      rw [if_pos (Multiset.mem_add.mpr (.inl hd)), Multiset.erase_add_left_pos _ hd]
      exact ih h

/-- Records whose text and moment no event takes away can be left out. -/
lemma settle_of_add {live others live' : Multiset (String × Int)} {events : List Event}
    (h : settle (live + others) events = some live')
    (hcancelled : ∀ d ∈ cancelledIn events, d.key ∉ others)
    (hresolved : ∀ d ∈ resolvedIn events, d.key ∉ others) :
    ∃ left, settle live events = some left ∧ live' = left + others := by
  induction events generalizing live with
  | nil => exact ⟨live, rfl, (Option.some.inj h).symm⟩
  | cons e events ih =>
    have ih' := fun live h => @ih live h
      (fun d hd => hcancelled d (by simp [hd])) (fun d hd => hresolved d (by simp [hd]))
    have htake : ∀ d : Deferred, d.key ∉ others →
        (if d.key ∈ live + others then settle ((live + others).erase d.key) events else none)
          = some live' →
        ∃ left, (if d.key ∈ live then settle (live.erase d.key) events else none) = some left ∧
          live' = left + others := by
      intro d hd h
      split_ifs at h with hmem
      have hlive : d.key ∈ live := (Multiset.mem_add.mp hmem).resolve_right hd
      rw [Multiset.erase_add_left_pos _ hlive] at h
      rw [if_pos hlive]
      exact ih' _ h
    cases e with
    | scheduled d =>
      rw [settle, ← Multiset.cons_add] at h
      exact ih' _ h
    | cancelled d => exact htake d (hcancelled d (by simp)) h
    | resolved d => exact htake d (hresolved d (by simp)) h

@[simp] lemma keys_nil : keys [] = 0 := rfl

@[simp] lemma keys_cons (d : Deferred) (records : List Deferred) :
    keys (d :: records) = d.key ::ₘ keys records := rfl

@[simp] lemma keys_append (records records' : List Deferred) :
    keys (records ++ records') = keys records + keys records' := by
  simp [keys]

/-- Where everything settles, what there was and what was added is what is left, what was cancelled
and what was resolved. -/
theorem settle_balance {live live' : Multiset (String × Int)} {events : List Event}
    (h : settle live events = some live') :
    live + keys (scheduledIn events) =
      live' + keys (resolvedIn events) + keys (cancelledIn events) := by
  induction events generalizing live with
  | nil =>
    obtain rfl := Option.some.inj h
    simp
  | cons e events ih =>
    cases e with
    | scheduled d => simpa using ih h
    | cancelled d =>
      rw [settle] at h
      split_ifs at h with hd
      have hlater := congrArg (d.key ::ₘ ·) (ih h)
      simpa [← Multiset.cons_add, Multiset.cons_erase hd] using hlater
    | resolved d =>
      rw [settle] at h
      split_ifs at h with hd
      have hlater := congrArg (d.key ::ₘ ·) (ih h)
      simpa [← Multiset.cons_add, Multiset.cons_erase hd] using hlater

/-! ## Resolutions and checks -/

lemma keys_removeFirst (target : String) (due : Timestamp) (records : List Deferred) :
    keys (removeFirst target due records) =
      (keys records).erase (Deferred.of target due).key := by
  induction records with
  | nil => rfl
  | cons d records ih =>
    by_cases hd : d.key = (Deferred.of target due).key
    · have hat : Deferred.isAt target due d = true := by simp [Deferred.isAt_eq, hd]
      rw [removeFirst, List.eraseP_cons_of_pos hat, keys_cons, hd, Multiset.erase_cons_head]
    · have hat : ¬Deferred.isAt target due d = true := by simp [Deferred.isAt_eq, hd]
      rw [removeFirst, List.eraseP_cons_of_neg hat, keys_cons, keys_cons,
        Multiset.erase_cons_tail _ hd, ← ih]
      rfl

lemma keys_removeAll (processed records : List Deferred) :
    keys (removeAll processed records) = keys records - keys processed := by
  induction processed generalizing records with
  | nil => simp [removeAll]
  | cons d processed ih =>
    have hlater := ih (removeFirst d.target d.due records)
    rw [keys_removeFirst, Deferred.of_eq_self] at hlater
    rw [keys_cons, Multiset.sub_cons]
    exact hlater

lemma any_isAt_iff {target : String} {due : Timestamp} {records : List Deferred} :
    records.any (Deferred.isAt target due) = true ↔
      (Deferred.of target due).key ∈ keys records := by
  simp [Deferred.isAt_eq, keys]

section Stored

variable {storage : KeyValueStore σ} {key : String} {value : σ → Option Json}
  {apart : σ → σ → Prop} {resolve : String → Context → Action σ String} {settings : Settings}
  {records ds : List Deferred} {w w' : σ} {events : List Event}
  (hstorage : storage.Keeps key value) (hapart : ∀ w w', apart w w' → value w' = value w)
include hstorage hapart

/-- A resolution takes away only what is stored. -/
lemma Conducts.settle_eq (h : Conducts storage key apart w events w')
    (hholds : Holds storage key records w) :
    settle (keys records) events = some (keys (replay records events)) := by
  induction h generalizing records with
  | done => rfl
  | other h _ ih => exact ih (hholds.of_value hstorage (hapart _ _ h))
  | @scheduled target due w w₁ w' handle events h _ ih =>
    obtain rfl := hholds.of_schedule hstorage h
    have hlater := ih (holds_afterSave hstorage _ _)
    rwa [keys_append, keys_cons, keys_nil, Multiset.add_cons, add_zero] at hlater
  | @cancelled target due w w₁ w' events h _ ih =>
    obtain ⟨hany, rfl⟩ := hholds.of_cancel_true hstorage h
    have hlater := ih (holds_afterSave hstorage _ _)
    rw [keys_removeFirst] at hlater
    rw [settle, if_pos (any_isAt_iff.mp hany), replay, List.foldl_cons, Event.apply, removeFirst,
      Deferred.isAt_of]
    exact hlater
  | missed h _ ih =>
    obtain ⟨-, rfl⟩ := hholds.of_cancel_false hstorage h
    exact ih (hholds.reread hstorage)

/-- Of the records that are stored while others are resolved, some have their end already. If
nothing goes twice, what is stored in the end is what has no end and these. -/
lemma Resolutions.keys_eq (h : Resolutions storage key apart resolve settings ds w events w')
    (hholds : Holds storage key records w) {live live' ended : Multiset (String × Int)}
    (hkeys : keys records = live + ended) (hsettle : settle live events = some live') :
    keys (replay records events) = live' + (ended + keys ds) := by
  induction h generalizing records live ended with
  | nil =>
    obtain rfl := Option.some.inj hsettle
    simpa [replay] using hkeys
  | @cons d ds w w₁ w' events later _ hconduct _ ih =>
    rw [settle, settle_append] at hsettle
    split_ifs at hsettle with hd
    obtain ⟨live₁, hfirst, hlater⟩ := Option.bind_eq_some_iff.mp hsettle
    have hstored : keys records = live.erase d.key + (ended + {d.key}) := by
      rw [hkeys, add_comm ended, ← add_assoc, add_comm (live.erase d.key), Multiset.singleton_add,
        Multiset.cons_erase hd]
    have hmeanwhile : keys (replay records events) = live₁ + (ended + {d.key}) := by
      have hall := hconduct.settle_eq hstorage hapart hholds
      rw [hstored, settle_add hfirst] at hall
      exact (Option.some.inj hall).symm
    have hend := ih (hconduct.holds hstorage hapart hholds) hmeanwhile hlater
    rw [add_assoc, Multiset.singleton_add] at hend
    rwa [replay, List.foldl_cons, List.foldl_append, keys_cons]

/-- If no call removes a record like one that is resolved, nothing goes twice. -/
lemma Resolutions.settle_isSome (h : Resolutions storage key apart resolve settings ds w events w')
    (hholds : Holds storage key records w) {rest ended : Multiset (String × Int)}
    (hkeys : keys records = rest + keys ds + ended)
    (hcancelled : ∀ d ∈ cancelledIn events, d.key ∉ keys ds + ended) :
    (settle (rest + keys ds) events).isSome = true := by
  induction h generalizing records rest ended with
  | nil => rfl
  | @cons d ds w w₁ w' events later _ hconduct _ ih =>
    have hall := hconduct.settle_eq hstorage hapart hholds
    rw [hkeys, add_assoc] at hall
    obtain ⟨left, hleft, hmeanwhile⟩ := settle_of_add hall
      (fun d' hd' => hcancelled d' (by simp [hd'])) (by simp [hconduct.resolvedIn_eq])
    have hkeys' : keys (replay records events) = left + keys ds + d.key ::ₘ ended := by
      rw [hmeanwhile, keys_cons, Multiset.cons_add, ← Multiset.add_cons, add_assoc]
    have hlater := ih (hconduct.holds hstorage hapart hholds) hkeys' fun d' hd' => by
      simpa using hcancelled d' (by simp [hd'])
    rw [keys_cons, Multiset.add_cons, settle, if_pos (Multiset.mem_cons_self _ _),
      Multiset.erase_cons_head, settle_append, settle_add hleft]
    exact hlater

/-- What is stored in the end, and what was cancelled, is what was stored and what was added. -/
lemma Resolutions.balance (h : Resolutions storage key apart resolve settings ds w events w')
    (hholds : Holds storage key records w) :
    keys records + keys (scheduledIn events) =
      keys (replay records events) + keys (cancelledIn events) := by
  induction h generalizing records with
  | nil => simp [replay]
  | @cons d ds w w₁ w' events later _ hconduct _ ih =>
    have hfirst := settle_balance (hconduct.settle_eq hstorage hapart hholds)
    rw [hconduct.resolvedIn_eq, keys_nil, add_zero] at hfirst
    have hlater := ih (hconduct.holds hstorage hapart hholds)
    calc keys records + keys (scheduledIn (.resolved d :: (events ++ later)))
        = keys records + keys (scheduledIn events) + keys (scheduledIn later) := by
          simp [add_assoc]
      _ = keys (replay records events) + keys (scheduledIn later) + keys (cancelledIn events) := by
          rw [hfirst, add_right_comm]
      _ = keys (replay (replay records events) later)
            + (keys (cancelledIn events) + keys (cancelledIn later)) := by
          rw [hlater, add_assoc, add_comm (keys (cancelledIn later))]
      _ = keys (replay records (.resolved d :: (events ++ later)))
            + keys (cancelledIn (.resolved d :: (events ++ later))) := by
          simp [replay, Event.apply]

end Stored

/-! ## Calls -/

/-- A call on the schedule. -/
inductive Call where
  | schedule (target : String) (due : Timestamp)
  | cancel (target : String) (due : Timestamp)
  /-- A check at a reference time or, without one, at the present moment. -/
  | check (now : Option Timestamp)

/-- The moment at which a check asks what is due. -/
def reference (services : Services σ) : Option Timestamp → Action σ Timestamp
  | some t => pure t
  | none => services.host.now

/-- What happens to the schedule during a call that succeeds. -/
inductive Happens (services : Services σ) (key : String) (apart : σ → σ → Prop)
    (resolve : String → Context → Action σ String) : Call → σ → List Event → σ → Prop
  | scheduled {target : String} {due : Timestamp} {handle : String × Timestamp} {w w' : σ}
      (hrun : (schedule services.storage key target due).run.run w = (.ok handle, w')) :
      Happens services key apart resolve (.schedule target due) w [.scheduled (.of target due)] w'
  | cancelled {target : String} {due : Timestamp} {w w' : σ}
      (hrun : (cancel services.storage key target due).run.run w = (.ok true, w')) :
      Happens services key apart resolve (.cancel target due) w [.cancelled (.of target due)] w'
  | missed {target : String} {due : Timestamp} {w w' : σ}
      (hrun : (cancel services.storage key target due).run.run w = (.ok false, w')) :
      Happens services key apart resolve (.cancel target due) w [] w'
  | checked {now : Option Timestamp} {t : Timestamp} {records : List Deferred} {w w₀ w₁ w' : σ}
      {events : List Event} (hnow : (reference services now).run.run w = (.ok t, w₀))
      (hload : Holds services.storage key records w₀)
      (hresolutions : Resolutions services.storage key apart resolve services.settings
        (records.filter (Deferred.isDue t)) (afterRead services.storage key w₀) events w₁)
      (hrun : (checkDue services key resolve now).run.run w =
        (.ok (records.filter (Deferred.isDue t)), w')) :
      Happens services key apart resolve (.check now) w events w'

/-- Calls one after the other, each with what happens during it. -/
inductive History (services : Services σ) (key : String) (apart : σ → σ → Prop)
    (resolve : String → Context → Action σ String) : List Call → σ → List (List Event) → σ → Prop
  | nil {w : σ} : History services key apart resolve [] w [] w
  | cons {call : Call} {calls : List Call} {w w₁ w' : σ} {events : List Event}
      {chapters : List (List Event)} (first : Happens services key apart resolve call w events w₁)
      (rest : History services key apart resolve calls w₁ chapters w') :
      History services key apart resolve (call :: calls) w (events :: chapters) w'

/-- What events say of the records before and after them: if everything settles, then to what is
stored, and in any case no record is missing. -/
structure Accounts (records : List Deferred) (events : List Event) (records' : List Deferred) :
    Prop where
  exact : ∀ live, settle (keys records) events = some live → live = keys records'
  covered : keys records + keys (scheduledIn events) ≤
    keys records' + keys (resolvedIn events) + keys (cancelledIn events)

lemma Accounts.of_settle {records records' : List Deferred} {events : List Event}
    (h : settle (keys records) events = some (keys records')) :
    Accounts records events records' where
  exact _ hlive := Option.some.inj (hlive.symm.trans h)
  covered := (settle_balance h).le

lemma Accounts.append {records records₁ records' : List Deferred} {events later : List Event}
    (first : Accounts records events records₁) (rest : Accounts records₁ later records') :
    Accounts records (events ++ later) records' where
  exact live hlive := by
    rw [settle_append] at hlive
    obtain ⟨live₁, hfirst, hrest⟩ := Option.bind_eq_some_iff.mp hlive
    rw [first.exact live₁ hfirst] at hrest
    exact rest.exact live hrest
  covered := by
    calc keys records + keys (scheduledIn (events ++ later))
        = keys records + keys (scheduledIn events) + keys (scheduledIn later) := by
          rw [scheduledIn_append, keys_append, add_assoc]
      _ ≤ keys records₁ + keys (resolvedIn events) + keys (cancelledIn events)
            + keys (scheduledIn later) := add_le_add_left first.covered _
      _ = keys records₁ + keys (scheduledIn later)
            + (keys (resolvedIn events) + keys (cancelledIn events)) := by abel
      _ ≤ keys records' + keys (resolvedIn later) + keys (cancelledIn later)
            + (keys (resolvedIn events) + keys (cancelledIn events)) :=
          add_le_add_left rest.covered _
      _ = keys records' + keys (resolvedIn (events ++ later))
            + keys (cancelledIn (events ++ later)) := by
          rw [resolvedIn_append, cancelledIn_append, keys_append, keys_append]
          abel

section Calls

variable {services : Services σ} {key : String} {value : σ → Option Json} {apart : σ → σ → Prop}
  {resolve : String → Context → Action σ String} {records : List Deferred} {w w' : σ}

lemma checkDue_reference {now : Option Timestamp} {t : Timestamp}
    (hnow : (reference services now).run.run w = (.ok t, w')) :
    (checkDue services key resolve now).run.run w =
      (checkDue services key resolve (some t)).run.run w' := by
  cases now with
  | some t' =>
    obtain ⟨ht, rfl⟩ := Prod.mk.inj hnow
    obtain rfl := Except.ok.inj ht
    rfl
  | none => exact checkDue_none hnow

variable (hstorage : services.storage.Keeps key value)
  (hapart : ∀ w w', apart w w' → value w' = value w)
  (hclock : ∀ w, ∃ t w', services.host.now.run.run w = (.ok t, w') ∧ value w' = value w)

include hclock in
lemma exists_reference (now : Option Timestamp) (w : σ) :
    ∃ t w', (reference services now).run.run w = (.ok t, w') ∧ value w' = value w := by
  cases now with
  | some t => exact ⟨t, w, rfl, rfl⟩
  | none => exact hclock w

include hclock in
lemma value_reference {now : Option Timestamp} {t : Timestamp}
    (hnow : (reference services now).run.run w = (.ok t, w')) : value w' = value w := by
  obtain ⟨t', w'', hnow', hvalue⟩ := exists_reference hclock now w
  obtain rfl : w'' = w' := (Prod.mk.inj (hnow'.symm.trans hnow)).2
  exact hvalue

include hstorage hapart

/-- A check removes as much as it has resolved. -/
lemma accounts_check {now : Timestamp} {events : List Event}
    (h : Resolutions services.storage key apart resolve services.settings
      (records.filter (Deferred.isDue now)) w events w')
    (hholds : Holds services.storage key records w) :
    Accounts records events
      (removeAll (records.filter (Deferred.isDue now)) (replay records events)) where
  exact live hlive := by
    have hkeys := h.keys_eq hstorage hapart hholds (add_zero _).symm hlive
    rw [keys_removeAll, hkeys, zero_add, Multiset.add_sub_cancel_right]
  covered := by
    have hbalance := h.balance hstorage hapart hholds
    rw [keys_removeAll, h.resolvedIn_eq, hbalance]
    exact add_le_add_left le_tsub_add _

lemma settle_check {now : Timestamp} {events : List Event}
    (h : Resolutions services.storage key apart resolve services.settings
      (records.filter (Deferred.isDue now)) w events w')
    (hholds : Holds services.storage key records w) (hcalm : Undisturbed events) :
    (settle (keys records) events).isSome = true := by
  have hdue : keys (records.filter (Deferred.isDue now)) ≤ keys records :=
    Multiset.coe_le.mpr (List.filter_sublist.map _).subperm
  have hrest := tsub_add_cancel_of_le hdue
  have hkeys : keys records = keys records - keys (records.filter (Deferred.isDue now))
      + keys (records.filter (Deferred.isDue now)) + 0 := by rw [hrest, add_zero]
  have hsome := h.settle_isSome hstorage hapart hholds hkeys fun d hd => by
    simpa [← h.resolvedIn_eq] using hcalm d hd
  rwa [hrest] at hsome

include hclock in
/-- What a call leaves, and how it accounts for that. -/
lemma Happens.accounts {call : Call} {events : List Event}
    (h : Happens services key apart resolve call w events w')
    (hholds : Holds services.storage key records w) :
    ∃ records', Holds services.storage key records' w' ∧ Accounts records events records' ∧
      (Undisturbed events → (settle (keys records) events).isSome = true) := by
  have hconducts : ∀ {events}, Conducts services.storage key apart w events w' →
      ∃ records', Holds services.storage key records' w' ∧ Accounts records events records' ∧
        (Undisturbed events → (settle (keys records) events).isSome = true) := by
    intro events hconduct
    have hsettle := hconduct.settle_eq hstorage hapart hholds
    exact ⟨_, hconduct.holds hstorage hapart hholds, .of_settle hsettle,
      fun _ => by rw [hsettle]; rfl⟩
  cases h with
  | scheduled hrun => exact hconducts (.scheduled hrun .done)
  | cancelled hrun => exact hconducts (.cancelled hrun .done)
  | missed hrun => exact hconducts (.missed hrun .done)
  | @checked now t records₀ _ w₀ w₁ _ _ hnow hload hresolutions hrun =>
    have hholds₀ := hholds.of_value hstorage (value_reference hclock hnow)
    obtain rfl := hholds₀.unique hload
    rw [checkDue_reference hnow] at hrun
    obtain ⟨w'', hrun', hleft, -⟩ := exists_checkDue hstorage hapart hholds₀ hresolutions
    obtain rfl := (Prod.mk.inj (hrun'.symm.trans hrun)).2
    have hread := hholds₀.reread hstorage
    exact ⟨_, hleft, accounts_check hstorage hapart hresolutions hread,
      settle_check hstorage hapart hresolutions hread⟩

section Progress

variable (hresolve : ∀ target context records w, Holds services.storage key records w →
  ∃ events, Conducts services.storage key apart w events
    ((resolve target context).run.run w).2)
include hclock hresolve

/-- Every call succeeds. -/
lemma exists_happens (hholds : Holds services.storage key records w) (call : Call) :
    ∃ events w', Happens services key apart resolve call w events w' := by
  cases call with
  | schedule target due => exact ⟨_, _, .scheduled (hholds.schedule_eq hstorage target due)⟩
  | cancel target due =>
    cases hany : records.any (Deferred.isAt target due) with
    | true => exact ⟨_, _, .cancelled (hholds.cancel_eq_true hstorage hany)⟩
    | false => exact ⟨_, _, .missed (hholds.cancel_eq_false hstorage hany)⟩
  | check now =>
    obtain ⟨t, w₀, hnow, hvalue⟩ := exists_reference hclock now w
    have hholds₀ := hholds.of_value hstorage hvalue
    have hallowed : ∀ d ∈ records.filter (Deferred.isDue t), ∀ records w,
        Holds services.storage key records w →
        ∃ events, (∀ e ∈ events, (fun _ => True) e) ∧ Conducts services.storage key apart w events
          ((resolve d.target (Context.assemble services.settings none none [] 0)).run.run w).2 := by
      intro d _ records w hholds
      obtain ⟨events, hconduct⟩ := hresolve d.target _ records w hholds
      exact ⟨events, fun _ _ => trivial, hconduct⟩
    obtain ⟨events, w₁, hresolutions, -⟩ := exists_resolutions hstorage hapart
      (fun _ => trivial) hallowed (hholds₀.reread hstorage)
    obtain ⟨w', hrun, -⟩ := exists_checkDue hstorage hapart hholds₀ hresolutions
    exact ⟨events, w', .checked hnow hholds₀ hresolutions (checkDue_reference hnow ▸ hrun)⟩

/-- All calls of a run succeed. -/
lemma exists_history (hholds : Holds services.storage key records w) (calls : List Call) :
    ∃ chapters w', History services key apart resolve calls w chapters w' := by
  induction calls generalizing records w with
  | nil => exact ⟨[], w, .nil⟩
  | cons call calls ih =>
    obtain ⟨events, w₁, hfirst⟩ := exists_happens hstorage hapart hclock hresolve hholds call
    obtain ⟨records₁, hholds₁, -⟩ := hfirst.accounts hstorage hapart hclock hholds
    obtain ⟨chapters, w', hrest⟩ := ih hholds₁
    exact ⟨_, w', .cons hfirst hrest⟩

end Progress

include hclock in
lemma History.accounts {calls : List Call} {chapters : List (List Event)}
    (h : History services key apart resolve calls w chapters w')
    (hholds : Holds services.storage key records w) :
    ∃ records', Holds services.storage key records' w' ∧
      Accounts records chapters.flatten records' ∧
      ((∀ events ∈ chapters, Undisturbed events) →
        (settle (keys records) chapters.flatten).isSome = true) := by
  induction h generalizing records with
  | nil => exact ⟨records, hholds, .of_settle rfl, fun _ => rfl⟩
  | @cons call calls w w₁ w' events chapters first _ ih =>
    obtain ⟨records₁, hholds₁, hfirst, hcalm⟩ := first.accounts hstorage hapart hclock hholds
    obtain ⟨records', hholds', hrest, hcalm'⟩ := ih hholds₁
    refine ⟨records', hholds', hfirst.append hrest, fun hall => ?_⟩
    obtain ⟨live, hlive⟩ := Option.isSome_iff_exists.mp (hcalm (hall events List.mem_cons_self))
    rw [List.flatten_cons, settle_append, hlive, Option.bind_some, hfirst.exact live hlive]
    exact hcalm' fun events' hevents' => hall events' (List.mem_cons_of_mem _ hevents')

end Calls

/-- Calls that append records, cancel them and check for them all succeed, and so do those that
resolutions make meanwhile. If what happens settles, then to what is stored in the end: each record
was resolved once, cancelled once or is still there. It does settle if no resolution cancels a
record like one that the same check resolves; whatever they do, no record is missing. -/
theorem calls_settle {services : Services σ} {key : String} {value : σ → Option Json}
    {apart : σ → σ → Prop} {resolve : String → Context → Action σ String}
    (hstorage : services.storage.Keeps key value)
    (hapart : ∀ w w', apart w w' → value w' = value w)
    (hclock : ∀ w, ∃ t w', services.host.now.run.run w = (.ok t, w') ∧ value w' = value w)
    (hresolve : ∀ target context records w, Holds services.storage key records w →
      ∃ events, Conducts services.storage key apart w events
        ((resolve target context).run.run w).2)
    {records : List Deferred} {w : σ} (h : Holds services.storage key records w)
    (calls : List Call) :
    (∃ chapters w', History services key apart resolve calls w chapters w') ∧
    ∀ chapters w', History services key apart resolve calls w chapters w' →
      ∃ records', Holds services.storage key records' w' ∧
        ((∀ events ∈ chapters, Undisturbed events) →
          settle (keys records) chapters.flatten = some (keys records')) ∧
        (∀ live, settle (keys records) chapters.flatten = some live → live = keys records') ∧
        keys records + keys (scheduledIn chapters.flatten) ≤
          keys records' + keys (resolvedIn chapters.flatten)
            + keys (cancelledIn chapters.flatten) := by
  refine ⟨exists_history hstorage hapart hclock hresolve h calls, fun chapters w' hhistory => ?_⟩
  obtain ⟨records', hholds, haccounts, hcalm⟩ := hhistory.accounts hstorage hapart hclock h
  refine ⟨records', hholds, fun hall => ?_, haccounts.exact, haccounts.covered⟩
  obtain ⟨live, hlive⟩ := Option.isSome_iff_exists.mp (hcalm hall)
  rw [hlive, haccounts.exact live hlive]

end Pinboard.Schedule

/-! ## Bells that call each other off -/

namespace Pinboard.Journal

open Schedule Time

/-- Calls off the bell of the evening. -/
def callOff : String → Context → Action Journal String := fun target _ => do
  let _ ← cancel storage Stored.deferredKey target evening
  pure ""

def twoBells : List Deferred := [bell nine, bell evening]

lemma callOff_conducts {target : String} {records : List Deferred} {w : Journal}
    (hholds : Holds storage Stored.deferredKey records w) (context : Context) :
    Conducts storage Stored.deferredKey Eq w
      (if records.any (Deferred.isAt target evening) then [.cancelled (.of target evening)] else [])
      ((callOff target context).run.run w).2 := by
  cases hany : records.any (Deferred.isAt target evening) with
  | true =>
    have hrun := hholds.cancel_eq_true (keeps _) hany
    rw [callOff, Action.run_bind_ok hrun]
    exact .cancelled hrun .done
  | false =>
    have hrun := hholds.cancel_eq_false (keeps _) hany
    rw [callOff, Action.run_bind_ok hrun]
    exact .missed hrun .done

lemma hapart_eq (key : String) (w w' : Journal) (h : w = w') : w'.get? key = w.get? key := h ▸ rfl

/-- The bells that are due in a journal of two, the first of which calls off the second. -/
lemma exists_callOff (t : Timestamp) {events : List Event} {w₁ : Journal}
    (h : Resolutions storage Stored.deferredKey Eq callOff Settings.default
      (twoBells.filter (Deferred.isDue t)) (holding Stored.deferredKey twoBells) events w₁) :
    ∃ w', History (servicesAt noon) Stored.deferredKey Eq callOff [.check (some t)]
        (holding Stored.deferredKey twoBells) [events] w' ∧
      (checkDue (servicesAt noon) Stored.deferredKey callOff (some t)).run.run
        (holding Stored.deferredKey twoBells) = (.ok (twoBells.filter (Deferred.isDue t)), w') := by
  have hholds := holds_holding Stored.deferredKey twoBells
  obtain ⟨w', hrun, -⟩ := @exists_checkDue _ (servicesAt noon) _ _ Eq callOff _ _ _ _
    (keeps Stored.deferredKey) (hapart_eq _) hholds t h
  exact ⟨w', .cons (.checked rfl hholds h hrun) .nil, hrun⟩

/-- The first bell calls off the second. -/
lemma exists_first :
    ∃ w₁, ((callOff "ring" (Context.assemble Settings.default none none [] 0)).run.run
        (holding Stored.deferredKey twoBells)).2 = w₁ ∧
      Conducts storage Stored.deferredKey Eq (holding Stored.deferredKey twoBells)
        [.cancelled (bell evening)] w₁ ∧
      Holds storage Stored.deferredKey [bell nine] w₁ := by
  have hholds := holds_holding Stored.deferredKey twoBells
  have hconduct := @callOff_conducts "ring" _ _ hholds
    (Context.assemble Settings.default none none [] 0)
  rw [if_pos (by decide)] at hconduct
  have hleft := hconduct.holds (keeps _) (hapart_eq _) hholds
  have hone : replay twoBells [.cancelled (.of "ring" evening)] = [bell nine] := by decide
  rw [hone] at hleft
  exact ⟨_, rfl, hconduct, hleft⟩

/-- At noon the bell of nine o'clock is rung, and it calls off that of the evening: one of the two
was resolved and one cancelled, and none is left. -/
theorem calls_settle_calledOff :
    ∃ w', History (servicesAt noon) Stored.deferredKey Eq callOff [.check (some noon)]
        (holding Stored.deferredKey twoBells)
        [[.resolved (bell nine), .cancelled (bell evening)]] w' ∧
      Holds storage Stored.deferredKey [] w' ∧
      settle (keys twoBells) [.resolved (bell nine), .cancelled (bell evening)] = some 0 := by
  obtain ⟨w₁, hfirst, hconduct, -⟩ := exists_first
  have hdue : twoBells.filter (Deferred.isDue noon) = [bell nine] := by decide
  have hresolutions := Resolutions.cons (d := bell nine) hfirst hconduct .nil
  rw [← hdue, List.append_nil] at hresolutions
  obtain ⟨w', hhistory, -⟩ := exists_callOff noon hresolutions
  obtain ⟨-, hall⟩ := @calls_settle _ (servicesAt noon) _ _ Eq callOff
    (keeps Stored.deferredKey) (hapart_eq _) (fun w => ⟨noon, w, rfl, rfl⟩)
    (fun target context records w hholds => ⟨_, callOff_conducts hholds context⟩)
    _ _ (holds_holding Stored.deferredKey twoBells) [.check (some noon)]
  obtain ⟨records', hholds, hcalm, -, -⟩ := hall _ w' hhistory
  have hother : ∀ d ∈ [bell evening], d.key ∉ keys [bell nine] := by decide
  have hsettle := hcalm fun events hevents => by
    obtain rfl := List.mem_singleton.mp hevents
    exact hother
  have hnone : settle (keys twoBells) [.resolved (bell nine), .cancelled (bell evening)]
      = some 0 := by decide
  have hkeys : keys records' = 0 := by
    rw [List.flatten_singleton, hnone] at hsettle
    exact (Option.some.inj hsettle).symm
  obtain rfl : records' = [] := by simpa [keys] using hkeys
  exact ⟨w', hhistory, hholds, hnone⟩

/-- In the evening both bells are rung, although the first has called off the second: a record that
was cancelled is resolved. -/
theorem cancelled_bell_rings :
    ∃ w', History (servicesAt noon) Stored.deferredKey Eq callOff [.check (some evening)]
        (holding Stored.deferredKey twoBells)
        [[.resolved (bell nine), .cancelled (bell evening), .resolved (bell evening)]] w' ∧
      (checkDue (servicesAt noon) Stored.deferredKey callOff (some evening)).run.run
        (holding Stored.deferredKey twoBells) = (.ok twoBells, w') ∧
      settle (keys twoBells)
        [.resolved (bell nine), .cancelled (bell evening), .resolved (bell evening)] = none := by
  obtain ⟨w₁, hfirst, hconduct, hleft⟩ := exists_first
  have hdue : twoBells.filter (Deferred.isDue evening) = twoBells := by decide
  have hsecond := @callOff_conducts "ring" _ _ hleft
    (Context.assemble Settings.default none none [] 0)
  rw [if_neg (by decide)] at hsecond
  have hresolutions := Resolutions.cons (d := bell nine) hfirst hconduct
    (.cons (d := bell evening) rfl hsecond .nil)
  rw [← twoBells, ← hdue] at hresolutions
  obtain ⟨w', hhistory, hrun⟩ := exists_callOff evening hresolutions
  rw [hdue] at hrun
  exact ⟨w', hhistory, hrun, by decide⟩

end Pinboard.Journal
