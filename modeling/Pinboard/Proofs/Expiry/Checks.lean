import Pinboard.Directive.Callable
import Pinboard.Proofs.Expiry.Stages
import Pinboard.Proofs.Launch.Desktop

/-!
# What a check of expiry changes

Before any custom action runs, the stored pins are those that were stored, each as the check leaves
it. None of them has expired, so a check at the same moment finds nothing to do, unless the custom
actions gave it something.
-/
namespace Pinboard

open Time

namespace Expiry

open Action

variable {σ : Type} {now : Timestamp} {services : Services σ} {board : σ → Board} {w : σ}

/-- Where no pin has expired, nothing is done. -/
lemma restock_ends_of_none (hstore : services.StoresPins board) (hnow : now.isAware = true)
    (hnone : ∀ p ∈ (board w).pins, ¬p.ExpiredAt now) :
    (restock services now).Ends board w (.ok ⟨0, 0, 0, []⟩) (board w) := by
  have hempty : (board w).pins.filter (fun p => decide (p.ExpiredAt now)) = [] := by
    simpa using hnone
  unfold restock
  refine (hstore.list w).bind fun w₁ h₁ => ?_
  rw [expiredPins_eq hnow, hempty]
  exact ⟨w₁, rfl, h₁⟩

/-! ## Custom actions -/

/-- Whatever is resolved, the answer is a text. -/
def Answers (resolve : String → Context → Action σ String) : Prop :=
  ∀ text context w, ∃ answer w', (resolve text context).run.run w = (.ok answer, w')

/-- A resolver answers on each of its levels. -/
lemma answers_reentry (r : Resolver σ) (levels : Nat) : Answers (r.reentry (levels + 1)).resolve :=
  fun _ _ _ => ⟨_, _, rfl⟩

variable {resolve : String → Context → Action σ String}

lemma resolveCustom_run (hresolve : Answers resolve) (settings : Settings) (pins : List Pin)
    (w : σ) : ∃ w', (resolveCustom resolve settings pins).run.run w = (.ok (), w') := by
  induction pins generalizing w with
  | nil => exact ⟨w, rfl⟩
  | cons p pins ih =>
    obtain ⟨answer, w₁, hrun⟩ :=
      hresolve p.expiryAction (Context.assemble settings (some p) none [] 0) w
    obtain ⟨w', hrest⟩ := ih w₁
    exact ⟨w', (run_bind_ok hrun).trans hrest⟩

/-! ## The check as a whole -/

/-- A check at a moment reaches the pins that expired before it and no others: they are removed,
hidden, disabled or stripped of their date, the summary counts them, and a message tells of them if
there are any. This is what the custom actions find. If they bring no further expired pin, another
check at this moment does nothing. -/
theorem check_settles_expired (hstore : services.StoresPins board)
    (hshows : services.ShowsMessages board) (hnow : now.isAware = true)
    (hids : ((board w).pins.map Pin.id).Nodup) :
    ∃ summary w₁, summary.Accounts now (board w).pins ∧
      board w₁ =
        { pins := (board w).pins.filterMap (Pin.leftAt now)
          shown := (board w).shown ++
            if 0 < summary.total ∧ services.notifier.isSome then [summary.message] else []
          resolved := (board w).resolved } ∧
      ∀ resolve, Answers resolve → ∃ w₂,
        (resolveCustom resolve services.settings summary.custom).run.run w₁ = (.ok (), w₂) ∧
        (check services resolve (some now)).run.run w = (.ok summary, w₂) ∧
        ((∀ p ∈ (board w₂).pins, p.ExpiredAt now → p ∈ (board w₁).pins) →
          ∀ resolve', (check services resolve' (some now)).Ends board w₂ (.ok ⟨0, 0, 0, []⟩)
            (board w₂)) := by
  obtain ⟨w₀, hrestock, hsettled⟩ := restock_ends hstore hnow hids
  obtain ⟨w₁, hannounce, hshown⟩ := announce_ends hshows (summaryAt now (board w).pins) w₀
  rw [hsettled] at hshown
  refine ⟨_, w₁, summaryAt_accounts now _, hshown, fun resolve hresolve => ?_⟩
  obtain ⟨w₂, hcustom⟩ := resolveCustom_run hresolve services.settings
    (summaryAt now (board w).pins).custom w₁
  refine ⟨w₂, hcustom, ?_, fun hnew resolve' => ?_⟩
  · rw [check_eq, run_bind_ok hrestock, run_bind_ok hannounce, run_bind_ok hcustom, run_pure]
  · have hnone : ∀ p ∈ (board w₂).pins, ¬p.ExpiredAt now := by
      intro p hp hexpired
      have hstored := hnew p hp hexpired
      rw [hshown] at hstored
      obtain ⟨q, -, hleft⟩ := List.mem_filterMap.mp hstored
      exact Pin.not_expiredAt_of_leftAt hleft hexpired
    rw [check_eq]
    refine (restock_ends_of_none hstore hnow hnone).bind fun w₃ h₃ => ?_
    exact ⟨w₃, rfl, h₃⟩

end Expiry

/-! ## A board -/

namespace Board

def pinShelf : Memory.Shelf Board (List Pin) where
  value := Board.pins
  put := fun pins board => { board with pins := pins }

/-- A place where nothing is kept. -/
def nowhere {α : Type} : Memory.Shelf Board (List α) where
  value := fun _ => []
  put := fun _ board => board

def host : Host Board where
  user := ""
  home := "/home"
  name := ""
  zone := "UTC"
  now := pure Journal.evening
  freshNumber := pure 0
  stopwatch := pure 0
  pathExists := fun _ => pure true
  sample := fun _ _ => pure []

def notifier (showMessage : String → Action Board Unit) : Notifier Board where
  showMessage := showMessage
  showAlert := fun _ _ => pure ()
  showToast := fun _ _ => pure ()
  prompt := fun _ _ _ => pure none
  confirm := fun _ _ => pure false

/-- Services with no more than a store for pins and a surface for messages. -/
def services (showMessage : String → Action Board Unit) : Services Board where
  pins := Memory.collection pinShelf
  groups := Memory.collection nowhere
  tags := Memory.collection nowhere
  storage := Memory.keyValues nowhere
  platform := none
  notifier := some (notifier showMessage)
  completion := none
  host := host
  settings := Settings.default

lemma services_storesPins (showMessage : String → Action Board Unit) :
    (services showMessage).StoresPins id where
  list w := ⟨w, rfl, rfl⟩
  update _ _ := ⟨_, rfl, rfl⟩
  remove _ _ := ⟨_, rfl, rfl⟩

def display (text : String) : Action Board Unit :=
  modify fun board => { board with shown := board.shown ++ [text] }

lemma services_showsMessages : (services display).ShowsMessages id := by
  intro notifier hnotifier text w
  obtain rfl := Option.some.inj hnotifier
  exact ⟨_, rfl, rfl⟩

/-- Resolving leaves a note. -/
def resolve (text : String) (context : Context) : Action Board String := do
  modify fun board => { board with resolved := board.resolved ++ [(text, context.pin)] }
  pure ""

/-- A pin that expires at a moment. -/
def expiring (id action : String) (t : Timestamp) : Pin :=
  { Desktop.pin id "" with expires := some t, expiryAction := action }

/-- Pins of all kinds, one of them still to expire. -/
def mixed : Board where
  pins := [expiring "old" "" Journal.nine, expiring "secret" "hide" Journal.noon,
    expiring "broken" "disable" Journal.nineAhead, expiring "bill" "custom pay" Journal.nine,
    expiring "odd" "open" Journal.noon, expiring "next" "delete" Journal.evening,
    Desktop.pin "plain" ""]
  shown := []
  resolved := []

end Board

theorem Expiry.check_settles_expired_mixed :
    ∃ w, (check (Board.services Board.display) Board.resolve (some Journal.evening)).run.run
        Board.mixed = (.ok ⟨1, 1, 1, [Board.expiring "bill" "custom pay" Journal.nine]⟩, w) ∧
      w.pins.map Pin.name = ["secret", "broken", "bill", "odd", "next", "plain"] ∧
      w.shown = ["Removed 1 expired pin, hid 1 pin, disabled 1 pin, " ++
        "ran custom expiration actions for 1 pin"] ∧
      w.resolved = [("custom pay", some (Board.expiring "bill" "custom pay" Journal.nine))] ∧
      (check (Board.services Board.display) Board.resolve (some Journal.evening)).Ends id w
        (.ok ⟨0, 0, 0, []⟩) w := by
  obtain ⟨summary, w₁, haccounts, hboard, hcheck⟩ :=
    check_settles_expired (Board.services_storesPins Board.display) Board.services_showsMessages
      (rfl : Journal.evening.isAware = true) (by decide : (Board.mixed.pins.map Pin.id).Nodup)
  obtain ⟨w₂, hcustom, hrun, hagain⟩ := hcheck Board.resolve fun _ _ _ => ⟨_, _, rfl⟩
  obtain rfl : summary = ⟨1, 1, 1, [Board.expiring "bill" "custom pay" Journal.nine]⟩ := by
    obtain ⟨removed, hidden, disabled, custom⟩ := summary
    rw [Summary.mk.injEq]
    exact ⟨haccounts.removed.trans (by decide), haccounts.hidden.trans (by decide),
      haccounts.disabled.trans (by decide), haccounts.custom.trans (by decide)⟩
  have hw₁ : w₁ = _ := hboard
  subst hw₁
  obtain rfl := (Prod.mk.inj hcustom).2
  refine ⟨_, hrun, by decide, by decide, by decide, ?_⟩
  exact hagain (by decide) Board.resolve

end Pinboard
