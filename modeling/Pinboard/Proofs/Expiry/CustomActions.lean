import Pinboard.Proofs.Expiry.Checks

/-!
# Custom actions that are lost

A check clears the dates of the expired pins that it keeps, then shows its message, and then
resolves the custom actions. If the message cannot be shown, the check ends there: no action was
resolved, and no date is left by which a later check could find the pins.
-/
namespace Pinboard

open Time

/-! ## What becomes of a pin -/

namespace Pin

/-- The pin expired before a moment, with an action to resolve. -/
def CustomAt (now : Timestamp) (p : Pin) : Prop :=
  p.ExpiredAt now ∧ Text.startsWith "custom" p.expiryAction = true

instance (now : Timestamp) (p : Pin) : Decidable (p.CustomAt now) :=
  inferInstanceAs (Decidable (_ ∧ _))

/-- The pin's action with the pin in the context. -/
def customAction (p : Pin) : String × Option Pin := (p.expiryAction, some p)

/-- The action was resolved once between two boards. -/
def ResolvedOnce (p : Pin) (b b' : Board) : Prop :=
  b'.resolved.count p.customAction = b.resolved.count p.customAction + 1

instance (p : Pin) (b b' : Board) : Decidable (p.ResolvedOnce b b') :=
  inferInstanceAs (Decidable (_ = _))

/-- The pin is stored with its date, so that a later check finds it. -/
def KeepsDate (p : Pin) (b : Board) : Prop := ∃ q ∈ b.pins, q.id = p.id ∧ q.expires = p.expires

instance (p : Pin) (b : Board) : Decidable (p.KeepsDate b) :=
  inferInstanceAs (Decidable (∃ q ∈ b.pins, _))

lemma customAction_injective : Function.Injective customAction := fun _ _ h =>
  Option.some.inj (Prod.mk.inj h).2

variable {now : Timestamp} {p : Pin} {b b' : Board}

lemma resolvedOnce_of_append {pins : List Pin} (hpins : pins.Nodup) (hp : p ∈ pins)
    (h : b'.resolved = b.resolved ++ pins.map customAction) : p.ResolvedOnce b b' := by
  have hone : (pins.map customAction).count p.customAction = 1 :=
    List.count_eq_one_of_mem (hpins.map customAction_injective) (List.mem_map_of_mem hp)
  rw [ResolvedOnce, h, List.count_append, hone]

lemma not_resolvedOnce_of_eq (h : b'.resolved = b.resolved) : ¬p.ResolvedOnce b b' := by
  rw [ResolvedOnce, h]
  omega

/-- A check leaves no date to an expired pin. -/
lemma not_keepsDate_of_settled {pins : List Pin} (hids : (pins.map Pin.id).Nodup) (hp : p ∈ pins)
    (hexpired : p.ExpiredAt now) (h : b'.pins = pins.filterMap (leftAt now)) :
    ¬p.KeepsDate b' := by
  rintro ⟨q, hq, hid, hdate⟩
  rw [h] at hq
  obtain ⟨r, hr, hleft⟩ := List.mem_filterMap.mp hq
  obtain rfl : r = p := List.inj_on_of_nodup_map hids hr hp ((id_leftAt hleft).symm.trans hid)
  obtain ⟨t, ht, hbefore⟩ := hexpired
  exact not_expiredAt_of_leftAt hleft ⟨t, hdate ▸ ht, hbefore⟩

end Pin

/-! ## Messages that may fail -/

/-- Messages may fail or not, at any call, and do nothing to pins and actions. -/
def Services.MayShow {σ : Type} (services : Services σ) (board : σ → Board) : Prop :=
  ∀ notifier ∈ services.notifier, ∀ text w, ∃ ended shown,
    (notifier.showMessage text).Ends board w ended { board w with shown := shown }

lemma Services.ShowsMessages.mayShow {σ : Type} {services : Services σ} {board : σ → Board}
    (h : services.ShowsMessages board) : services.MayShow board :=
  fun notifier hnotifier text w => ⟨_, _, h notifier hnotifier text w⟩

namespace Expiry

open Action

variable {σ : Type} {services : Services σ} {board : σ → Board}
  {resolve : String → Context → Action σ String} {now : Timestamp} {w : σ}

/-- What is resolved is noted with the pin in its context, and gives a text. It may do anything to
the stored pins. -/
def Notes (board : σ → Board) (resolve : String → Context → Action σ String) : Prop :=
  ∀ text context w, ∃ answer pins shown, (resolve text context).Ends board w (.ok answer)
    ⟨pins, shown, (board w).resolved ++ [(text, context.pin)]⟩

/-- The message of a check, if there is one to be shown, can be shown where the check shows it. -/
def Told (services : Services σ) (now : Timestamp) (w : σ) : Prop :=
  ∃ summary w₁ w₂, (restock services now).run.run w = (.ok summary, w₁) ∧
    (announce services summary).run.run w₁ = (.ok (), w₂)

lemma announce_mayShow (hshows : services.MayShow board) (s : Summary) (w : σ) :
    ∃ ended shown, (announce services s).Ends board w ended { board w with shown := shown } := by
  unfold announce
  split_ifs with hmessage
  · cases hnotifier : services.notifier with
    | none => exact ⟨_, _, ends_pure ()⟩
    | some notifier => exact hshows notifier hnotifier s.message w
  · exact ⟨_, _, ends_pure ()⟩

/-- The custom actions are resolved in turn. -/
lemma resolveCustom_ends (hnotes : Notes board resolve) (settings : Settings) (pins : List Pin)
    (w : σ) : ∃ stored shown, (resolveCustom resolve settings pins).Ends board w (.ok ())
      ⟨stored, shown, (board w).resolved ++ pins.map Pin.customAction⟩ := by
  induction pins generalizing w with
  | nil =>
    refine ⟨(board w).pins, (board w).shown, w, rfl, ?_⟩
    rw [List.map_nil, List.append_nil]
  | cons p pins ih =>
    obtain ⟨answer, _, _, w₁, hrun, hboard⟩ :=
      hnotes p.expiryAction (Context.assemble settings (some p) none [] 0) w
    obtain ⟨stored, shown, w', hrest, hseen⟩ := ih w₁
    refine ⟨stored, shown, w', (run_bind_ok hrun).trans hrest, ?_⟩
    rw [hseen, hboard, List.append_assoc]
    rfl

section Check

variable (hstore : services.StoresPins board) (hshows : services.MayShow board)
  (hnow : now.isAware = true) (hids : ((board w).pins.map Pin.id).Nodup)
include hstore hshows hnow hids

/-- A check whose message is shown resolves the custom actions in the order of the pins. -/
lemma check_of_told (hnotes : Notes board resolve) (htold : Told services now w) :
    ∃ w', (check services resolve (some now)).run.run w =
        (.ok (summaryAt now (board w).pins), w') ∧
      (board w').resolved = (board w).resolved ++
        ((board w).pins.filter fun p => p.CustomAt now).map Pin.customAction := by
  obtain ⟨summary, w₁, w₂, hrestock, hannounce⟩ := htold
  obtain ⟨w₁', hrestock', hsettled⟩ := restock_ends hstore hnow hids
  obtain ⟨hsummary, rfl⟩ := Prod.mk.inj (hrestock.symm.trans hrestock')
  obtain rfl := Except.ok.inj hsummary
  obtain ⟨ended, shown, w₂', hannounce', hshown⟩ :=
    announce_mayShow hshows (summaryAt now (board w).pins) w₁
  obtain ⟨-, rfl⟩ := Prod.mk.inj (hannounce.symm.trans hannounce')
  obtain ⟨stored, shown', w', hcustom, hseen⟩ :=
    resolveCustom_ends hnotes services.settings (summaryAt now (board w).pins).custom w₂
  refine ⟨w', ?_, ?_⟩
  · rw [check_eq, run_bind_ok hrestock, run_bind_ok hannounce, run_bind_ok hcustom, run_pure]
  · rw [hseen, hshown, hsettled, (summaryAt_accounts now (board w).pins).custom]
    rfl

/-- A check whose message is not shown resolves nothing, and the pins are settled all the same. -/
lemma check_of_not_told (hnot : ¬Told services now w) :
    ∃ fault w', (check services resolve (some now)).run.run w = (.error fault, w') ∧
      (board w').resolved = (board w).resolved ∧
      (board w').pins = (board w).pins.filterMap (Pin.leftAt now) := by
  obtain ⟨w₁, hrestock, hsettled⟩ := restock_ends hstore hnow hids
  obtain ⟨ended, shown, w₂, hannounce, hshown⟩ :=
    announce_mayShow hshows (summaryAt now (board w).pins) w₁
  cases ended with
  | ok told => exact absurd ⟨_, w₁, w₂, hrestock, hannounce⟩ hnot
  | error fault =>
    refine ⟨fault, w₂, ?_, ?_, ?_⟩
    · rw [check_eq, run_bind_ok hrestock, run_bind_error hannounce]
    · rw [hshown, hsettled]
    · rw [hshown, hsettled]

/-- A check loses no custom action exactly if there is none to resolve or its message can be shown.
Then all are resolved in the order of the pins. Otherwise the check faults, none is resolved, and
the pins are left without their dates. -/
theorem customs_kept_iff_told (hnotes : Notes board resolve) :
    ∃ ended w', (check services resolve (some now)).run.run w = (ended, w') ∧
      ((∀ p ∈ (board w).pins, p.CustomAt now →
          p.ResolvedOnce (board w) (board w') ∨ p.KeepsDate (board w')) ↔
        (∀ p ∈ (board w).pins, ¬p.CustomAt now) ∨ Told services now w) ∧
      (Told services now w → (∃ summary, ended = .ok summary) ∧ (board w').resolved =
        (board w).resolved ++
          ((board w).pins.filter fun p => p.CustomAt now).map Pin.customAction) ∧
      (¬Told services now w → (∃ fault, ended = .error fault) ∧
        (board w').resolved = (board w).resolved ∧
        (board w').pins = (board w).pins.filterMap (Pin.leftAt now)) := by
  by_cases htold : Told services now w
  · obtain ⟨w', hrun, hall⟩ := check_of_told hstore hshows hnow hids hnotes htold
    refine ⟨_, w', hrun, ⟨fun _ => .inr htold, fun _ p hp hdue => .inl ?_⟩,
      fun _ => ⟨⟨_, rfl⟩, hall⟩, absurd htold⟩
    have hdistinct : ((board w).pins.filter fun p => decide (p.CustomAt now)).Nodup :=
      (List.Nodup.of_map _ hids).filter _
    exact Pin.resolvedOnce_of_append hdistinct
      (List.mem_filter.mpr ⟨hp, decide_eq_true hdue⟩) hall
  · obtain ⟨fault, w', hrun, hnone, hleft⟩ := check_of_not_told hstore hshows hnow hids htold
    -- neither way out is open: the check ended before any action, and after all dates were cleared
    have hlost : ∀ p ∈ (board w).pins, p.CustomAt now →
        ¬(p.ResolvedOnce (board w) (board w') ∨ p.KeepsDate (board w')) := by
      rintro p hp hdue (honce | hdate)
      · exact Pin.not_resolvedOnce_of_eq hnone honce
      · exact Pin.not_keepsDate_of_settled hids hp hdue.1 hleft hdate
    refine ⟨_, w', hrun, ⟨fun hkept => .inl fun p hp hdue => ?_, ?_⟩, fun h => absurd h htold,
      fun _ => ⟨⟨fault, rfl⟩, hnone, hleft⟩⟩
    · exact hlost p hp hdue (hkept p hp hdue)
    · rintro (hnocustom | htold') p hp hdue
      · exact absurd hdue (hnocustom p hp)
      · exact absurd htold' htold

end Check

end Expiry

/-! ## A message that cannot be shown -/

namespace Board

/-- Messages fail. -/
def refuse (_ : String) : Action Board Unit := throw (.refused "show_message")

lemma mayShow_refuse : (services refuse).MayShow id := by
  intro notifier hnotifier text w
  obtain rfl := Option.some.inj hnotifier
  exact ⟨_, _, _, rfl, rfl⟩

lemma notes_resolve : Expiry.Notes id resolve := fun _ _ _ => ⟨_, _, _, _, rfl, rfl⟩

def bill : Pin := expiring "bill" "custom pay" Journal.nine

end Board

/-- Each action on a board is resolved once where messages are shown. -/
theorem Expiry.customs_kept_iff_told_mixed :
    ∃ ended w, (check (Board.services Board.display) Board.resolve (some Journal.evening)).run.run
        Board.mixed = (ended, w) ∧
      ∀ p ∈ Board.mixed.pins, p.CustomAt Journal.evening →
        p.ResolvedOnce Board.mixed w ∨ p.KeepsDate w := by
  obtain ⟨ended, w, hrun, hkept, -⟩ := customs_kept_iff_told
    (Board.services_storesPins Board.display) Board.services_showsMessages.mayShow
    (rfl : Journal.evening.isAware = true) (by decide : (Board.mixed.pins.map Pin.id).Nodup)
    Board.notes_resolve
  exact ⟨ended, w, hrun, hkept.mpr (.inr ⟨_, _, _, rfl, rfl⟩)⟩

/-- The one action on a board is not resolved, and its pin has no date any more. -/
theorem Expiry.bill_lost :
    (Board.services Board.refuse).StoresPins id ∧ (Board.services Board.refuse).MayShow id ∧
      Notes id Board.resolve ∧ Journal.evening.isAware = true ∧
      ∃ ended w, (check (Board.services Board.refuse) Board.resolve (some Journal.evening)).run.run
          ⟨[Board.bill], [], []⟩ = (ended, w) ∧
        Board.bill.CustomAt Journal.evening ∧
        ¬(Board.bill.ResolvedOnce ⟨[Board.bill], [], []⟩ w ∨ Board.bill.KeepsDate w) :=
  ⟨Board.services_storesPins Board.refuse, Board.mayShow_refuse, Board.notes_resolve, rfl,
    _, _, rfl, by decide, by decide⟩

end Pinboard
