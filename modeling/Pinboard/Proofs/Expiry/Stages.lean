import Pinboard.Expiry
import Pinboard.Proofs.Action
import Pinboard.Proofs.Store.Collections

/-!
# The stages of a check of expiry

A check settles the stored pins, announces what it did, and resolves the custom actions. The first
stage reaches exactly the pins that expired before the moment of the check, whatever the removal and
the update of pins by their ids would do to others with the same id.
-/
namespace Pinboard

open Time

/-! ## Items under distinct ids -/

namespace Memory

variable {α : Type} [Item α] {stored : List α}

lemma latest?_of_mem {items : List α} (hids : (items.map Item.id).Nodup) {item : α}
    (hitem : item ∈ items) : latest? (Item.id item) items = some item := by
  cases hlatest : latest? (Item.id item) items with
  | none =>
    have hother := List.find?_eq_none.mp hlatest item (List.mem_reverse.mpr hitem)
    exact absurd (beq_self_eq_true _) hother
  | some found =>
    have hfound : found ∈ items := List.mem_reverse.mp (List.mem_of_find?_eq_some hlatest)
    rw [List.inj_on_of_nodup_map hids hfound hitem (id_latest? hlatest)]

section Distinct

variable (hids : (stored.map Item.id).Nodup) (P : α → Bool)
include hids

lemma any_id_filter {a : α} (ha : a ∈ stored) :
    ((stored.filter P).any fun item => Item.id item == Item.id a) = P a := by
  rw [Bool.eq_iff_iff, List.any_eq_true]
  constructor
  · rintro ⟨item, hitem, hsame⟩
    obtain ⟨hstored, hP⟩ := List.mem_filter.mp hitem
    rwa [← List.inj_on_of_nodup_map hids hstored ha (beq_iff_eq.mp hsame)]
  · exact fun hP => ⟨a, List.mem_filter.mpr ⟨ha, hP⟩, beq_self_eq_true _⟩

lemma remove_filter : remove (stored.filter P) stored = stored.filter fun a => !P a :=
  List.filter_congr fun a ha => by rw [any_id_filter hids P ha]

lemma update_map_filter {f : α → α} (hf : ∀ a, Item.id (f a) = Item.id a) :
    update ((stored.filter P).map f) stored = stored.map fun a => if P a then f a else a := by
  have hchanged : (((stored.filter P).map f).map Item.id).Nodup := by
    rw [List.map_map, show Item.id ∘ f = Item.id from funext hf]
    exact hids.sublist (List.filter_sublist.map _)
  refine List.map_congr_left fun a ha => ?_
  split_ifs with hP
  · have hmem : f a ∈ (stored.filter P).map f :=
      List.mem_map_of_mem (List.mem_filter.mpr ⟨ha, hP⟩)
    rw [← hf a, latest?_of_mem hchanged hmem]
    rfl
  · cases hlatest : latest? (Item.id a) ((stored.filter P).map f) with
    | none => rfl
    | some found =>
      have hfound := List.mem_reverse.mp (List.mem_of_find?_eq_some hlatest)
      obtain ⟨b, hb, rfl⟩ := List.mem_map.mp hfound
      obtain ⟨hstored, hPb⟩ := List.mem_filter.mp hb
      have hid : Item.id b = Item.id a := (hf b).symm.trans (id_latest? hlatest)
      rw [List.inj_on_of_nodup_map hids hstored ha hid] at hPb
      exact absurd hPb hP

end Distinct

end Memory

/-! ## Pins at a moment -/

namespace Pin

/-- The pin expired before a moment. A time without offset is one in UTC. -/
def ExpiredAt (now : Timestamp) (p : Pin) : Prop := ∃ t ∈ p.expires, t.instant < now.instant

instance (now : Timestamp) (p : Pin) : Decidable (p.ExpiredAt now) :=
  inferInstanceAs (Decidable (∃ t ∈ p.expires, t.instant < now.instant))

/-- The pin after a check, if it is still stored then. -/
def leftAt (now : Timestamp) (p : Pin) : Option Pin :=
  if p.ExpiredAt now then
    if p.expiryAction = "delete" ∨ p.expiryAction = "" then none
    else if p.expiryAction = "hide" then some { p with visibility := .hidden, expires := none }
    else if p.expiryAction = "disable" then some { p with visibility := .disabled, expires := none }
    else some { p with expires := none }
  else some p

variable {now : Timestamp} {p q : Pin}

lemma leftAt_of_not (h : ¬p.ExpiredAt now) : p.leftAt now = some p := if_neg h

/-- An expired pin is removed or settled. -/
lemma leftAt_of_expired (h : p.ExpiredAt now) :
    p.leftAt now = if Expiry.outcome p = .remove then none else some (Expiry.settle p) := by
  rw [leftAt, if_pos h]
  simp only [Expiry.settle, Expiry.outcome, or_comm (a := p.expiryAction = "delete")]
  split_ifs <;> simp_all

lemma id_leftAt (h : p.leftAt now = some q) : q.id = p.id := by
  by_cases hexpired : p.ExpiredAt now
  · rw [leftAt_of_expired hexpired] at h
    split_ifs at h
    obtain rfl := Option.some.inj h
    exact Expiry.settle_id p
  · rw [leftAt_of_not hexpired] at h
    rw [Option.some.inj h]

/-- A pin that is left has not expired. -/
lemma not_expiredAt_of_leftAt (h : p.leftAt now = some q) : ¬q.ExpiredAt now := by
  by_cases hexpired : p.ExpiredAt now
  · rw [leftAt_of_expired hexpired] at h
    split_ifs at h
    obtain rfl := Option.some.inj h
    simp [ExpiredAt]
  · rw [leftAt_of_not hexpired] at h
    rwa [← Option.some.inj h]

end Pin

namespace Expiry

variable {σ : Type} {now : Timestamp}

lemma isExpired?_eq (hnow : now.isAware = true) (p : Pin) :
    isExpired? now p = some (decide (p.ExpiredAt now)) := by
  cases hexpires : p.expires with
  | none => simp [isExpired?, Pin.ExpiredAt, hexpires]
  | some t => simp [isExpired?, Pin.ExpiredAt, hexpires, Timestamp.lt?, hnow]

lemma expiredPins_eq (hnow : now.isAware = true) (pins : List Pin) :
    expiredPins now pins = .ok (pins.filter fun p => decide (p.ExpiredAt now)) := by
  induction pins with
  | nil => rfl
  | cons p pins ih =>
    rw [expiredPins, isExpired?_eq hnow, ih, List.filter_cons]
    rfl

/-- What is taken from the pins and put in their places. -/
lemma settled_eq {pins : List Pin} (hids : (pins.map Pin.id).Nodup) :
    let expired := pins.filter fun p => decide (p.ExpiredAt now)
    Memory.update ((expired.filter fun p => outcome p ≠ .remove).map settle)
        (Memory.remove (expired.filter fun p => outcome p = .remove) pins) =
      pins.filterMap (Pin.leftAt now) := by
  intro expired
  -- what is left after the removal still has distinct ids, so the update finds each pin by its own
  let drops (p : Pin) : Bool := decide (p.ExpiredAt now) && decide (outcome p = .remove)
  let kept := pins.filter fun p => !drops p
  have hdropped : expired.filter (fun p => outcome p = .remove) = pins.filter drops := by
    rw [List.filter_filter]
    exact List.filter_congr fun p _ => Bool.and_comm _ _
  have hsettled : expired.filter (fun p => outcome p ≠ .remove) =
      kept.filter fun p => decide (p.ExpiredAt now) := by
    rw [List.filter_filter, List.filter_filter]
    refine List.filter_congr fun p _ => ?_
    by_cases hp : p.ExpiredAt now <;> simp [drops, hp]
  have hkept : (kept.map Item.id).Nodup := hids.sublist (List.filter_sublist.map _)
  calc Memory.update ((expired.filter fun p => outcome p ≠ .remove).map settle)
        (Memory.remove (expired.filter fun p => outcome p = .remove) pins)
      = Memory.update ((kept.filter fun p => decide (p.ExpiredAt now)).map settle) kept := by
        rw [hdropped, hsettled, Memory.remove_filter hids]
    _ = kept.map fun p => if decide (p.ExpiredAt now) then settle p else p :=
        Memory.update_map_filter hkept _ settle_id
    _ = pins.filterMap (Pin.leftAt now) := by
        rw [← List.filterMap_eq_map, List.filterMap_filter]
        refine List.filterMap_congr fun p _ => ?_
        by_cases hp : p.ExpiredAt now
        · by_cases hremove : outcome p = .remove <;>
            simp [drops, hp, hremove, Pin.leftAt_of_expired hp]
        · simp [drops, hp, Pin.leftAt_of_not hp]

/-! ## Summaries -/

/-- A summary counts each kind of expired pins, and holds those with an action to resolve. -/
structure Summary.Accounts (s : Summary) (now : Timestamp) (pins : List Pin) : Prop where
  removed : s.removed = pins.countP fun p =>
    p.ExpiredAt now ∧ (p.expiryAction = "delete" ∨ p.expiryAction = "")
  hidden : s.hidden = pins.countP fun p => p.ExpiredAt now ∧ p.expiryAction = "hide"
  disabled : s.disabled = pins.countP fun p => p.ExpiredAt now ∧ p.expiryAction = "disable"
  custom : s.custom = pins.filter fun p =>
    p.ExpiredAt now ∧ Text.startsWith "custom" p.expiryAction = true

lemma outcome_eq_remove {p : Pin} :
    outcome p = .remove ↔ p.expiryAction = "delete" ∨ p.expiryAction = "" := by
  grind [outcome]

lemma outcome_eq_hide {p : Pin} : outcome p = .hide ↔ p.expiryAction = "hide" := by
  grind [outcome]

lemma outcome_eq_disable {p : Pin} : outcome p = .disable ↔ p.expiryAction = "disable" := by
  grind [outcome]

lemma outcome_eq_custom {p : Pin} :
    outcome p = .custom ↔ Text.startsWith "custom" p.expiryAction = true := by
  have hothers : ∀ action ∈ ["", "delete", "hide", "disable"],
      Text.startsWith "custom" action = false := by decide
  grind [outcome]

lemma countOf_filter (o : Outcome) (pins : List Pin) :
    countOf o (pins.filter fun p => decide (p.ExpiredAt now)) =
      pins.countP fun p => p.ExpiredAt now ∧ outcome p = o := by
  rw [countOf, List.filter_filter, List.countP_eq_length_filter]
  congr 2
  funext p
  rw [Bool.and_comm, Bool.decide_and]

/-- What a check at a moment finds to do. -/
def summaryAt (now : Timestamp) (pins : List Pin) : Summary :=
  summaryOf (pins.filter fun p => decide (p.ExpiredAt now))

lemma summaryAt_accounts (now : Timestamp) (pins : List Pin) :
    (summaryAt now pins).Accounts now pins where
  removed := by simp only [summaryAt, summaryOf, countOf_filter, outcome_eq_remove]
  hidden := by simp only [summaryAt, summaryOf, countOf_filter, outcome_eq_hide]
  disabled := by simp only [summaryAt, summaryOf, countOf_filter, outcome_eq_disable]
  custom := by
    simp only [summaryAt, summaryOf, List.filter_filter, outcome_eq_custom, Bool.decide_and,
      Bool.and_comm]

namespace Summary

lemma part_eq_nil {n : Nat} {text : String} : part n text = [] ↔ n = 0 := by
  rw [part]
  split_ifs with h <;> simp [h]

lemma capitalized_eq_empty {s : String} : capitalized s = "" ↔ s = "" := by
  rw [capitalized]
  cases hs : s.toList with
  | nil => simp [String.toList_eq_nil_iff.mp hs]
  | cons c cs =>
    have hne : s ≠ "" := fun h => by simp [h] at hs
    simp [hne]

lemma join_eq_empty {separator : String} {parts : List String} (h : ∀ part ∈ parts, part ≠ "") :
    Text.join separator parts = "" ↔ parts = [] := by
  rw [← String.toList_eq_nil_iff, Text.join, String.toList_intercalate]
  cases parts with
  | nil => simp [List.intercalate]
  | cons part parts =>
    have hpart : part.toList ≠ [] := String.toList_eq_nil_iff.not.mpr (h part List.mem_cons_self)
    cases parts <;> simp [List.intercalate, hpart]

lemma ne_empty_of_mem_part {n : Nat} {start rest text : String} (hstart : start ≠ "")
    (htext : text ∈ part n (start ++ rest)) : text ≠ "" := by
  rw [part] at htext
  split_ifs at htext
  · cases htext
  · rw [List.mem_singleton.mp htext]
    simp [hstart]

/-- There is a message if something was done. -/
lemma message_ne_empty_iff (s : Summary) : s.message ≠ "" ↔ 0 < s.total := by
  have hparts : ∀ text ∈ part s.removed ("removed " ++ counted s.removed "expired pin")
      ++ part s.hidden ("hid " ++ counted s.hidden "pin")
      ++ part s.disabled ("disabled " ++ counted s.disabled "pin")
      ++ part s.custom.length
        ("ran custom expiration actions for " ++ counted s.custom.length "pin"), text ≠ "" := by
    simp only [List.mem_append]
    rintro text (((h | h) | h) | h) <;> exact ne_empty_of_mem_part (by decide) h
  rw [message, Ne, capitalized_eq_empty, join_eq_empty hparts, total]
  simp only [List.append_eq_nil_iff, part_eq_nil]
  omega

end Summary

end Expiry

/-! ## What is seen of a check -/

/-- The stored pins, the messages that were shown, and the actions that were resolved, each with the
pin in its context. -/
structure Board where
  pins : List Pin
  shown : List String
  resolved : List (String × Option Pin)
  deriving DecidableEq

namespace Services

variable {σ : Type}

/-- The store works for pins, and nothing else is seen of its calls. -/
structure StoresPins (services : Services σ) (board : σ → Board) : Prop where
  list : ∀ w, services.pins.list.Ends board w (.ok (board w).pins) (board w)
  update : ∀ pins w, (services.pins.update pins).Ends board w (.ok ())
    { board w with pins := Memory.update pins (board w).pins }
  remove : ∀ pins w, (services.pins.remove pins).Ends board w (.ok ())
    { board w with pins := Memory.remove pins (board w).pins }

/-- Every message is shown, if there is a surface for messages. -/
def ShowsMessages (services : Services σ) (board : σ → Board) : Prop :=
  ∀ notifier ∈ services.notifier, ∀ text w, (notifier.showMessage text).Ends board w (.ok ())
    { board w with shown := (board w).shown ++ [text] }

end Services

namespace Expiry

variable {σ : Type} {now : Timestamp}

open Action

/-! ## Stages -/

/-- A step for pins, if there are any. -/
def forAny (pins : List Pin) (step : List Pin → Action σ Unit) : Action σ Unit :=
  if !pins.isEmpty then step pins else pure ()

/-- The first stage: settle the stored pins and sum up. -/
def restock (services : Services σ) (now : Timestamp) : Action σ Summary := do
  let expired ← Action.ofExcept (expiredPins now (← services.pins.list))
  forAny (expired.filter fun p => outcome p = .remove) services.pins.remove
  forAny (expired.filter fun p => outcome p ≠ .remove) fun kept =>
    services.pins.update (kept.map settle)
  pure (summaryOf expired)

/-- The second stage: show what was done. -/
def announce (services : Services σ) (summary : Summary) : Action σ Unit :=
  if summary.message ≠ "" then
    match services.notifier with
    | some notifier => notifier.showMessage summary.message
    | none => pure ()
  else pure ()

lemma announce_bind {β : Type} (services : Services σ) (s : Summary) (f : Unit → Action σ β) :
    announce services s >>= f =
      if s.message ≠ "" then
        match services.notifier with
        | some notifier => notifier.showMessage s.message >>= f
        | none => f ()
      else f () := by
  unfold announce
  cases services.notifier <;> split_ifs <;> simp only [pure_bind]

/-- A check is its first two stages and the custom actions. -/
lemma check_eq (services : Services σ) (resolve : String → Context → Action σ String)
    (now : Timestamp) : check services resolve (some now) = (do
      let summary ← restock services now
      announce services summary
      resolveCustom resolve services.settings summary.custom
      pure summary) := by
  simp only [check, restock, forAny, announce_bind, pure_bind, bind_assoc]
  refine bind_congr fun pins => bind_congr fun expired => ?_
  split <;> split <;> rfl

variable {services : Services σ} {board : σ → Board} {w : σ}

lemma forAny_ends {pins : List Pin} {step : List Pin → Action σ Unit} {seen : Board}
    (hstep : (step pins).Ends board w (.ok ()) seen) (hnil : pins = [] → seen = board w) :
    (forAny pins step).Ends board w (.ok ()) seen := by
  unfold forAny
  split_ifs with hany
  · exact hstep
  · rw [hnil (by simpa using hany)]
    exact ends_pure ()

lemma restock_ends (hstore : services.StoresPins board) (hnow : now.isAware = true)
    (hids : ((board w).pins.map Pin.id).Nodup) :
    (restock services now).Ends board w (.ok (summaryAt now (board w).pins))
      { board w with pins := (board w).pins.filterMap (Pin.leftAt now) } := by
  unfold restock
  refine (hstore.list w).bind fun w₁ h₁ => ?_
  rw [expiredPins_eq hnow]
  refine (ends_pure _).bind fun w₂ h₂ => ?_
  refine (forAny_ends (hstore.remove _ w₂) fun hnil => ?_).bind fun w₃ h₃ => ?_
  · rw [hnil, Memory.remove_nil]
  have hupdate (kept : List Pin) : (forAny kept fun kept => services.pins.update
      (kept.map settle)).Ends board w₃ (.ok ())
      { board w₃ with pins := Memory.update (kept.map settle) (board w₃).pins } :=
    forAny_ends (hstore.update _ w₃) fun hnil => by rw [hnil, List.map_nil, Memory.update_nil]
  refine (hupdate _).bind fun w₄ h₄ => ⟨w₄, rfl, ?_⟩
  rw [h₄, h₃, show board w₂ = board w from h₂.trans h₁, ← settled_eq hids]

lemma announce_ends (hshows : services.ShowsMessages board) (s : Summary) (w : σ) :
    (announce services s).Ends board w (.ok ())
      { board w with shown := (board w).shown ++
          if 0 < s.total ∧ services.notifier.isSome then [s.message] else [] } := by
  unfold announce
  cases hnotifier : services.notifier with
  | none => simpa using ends_pure ()
  | some notifier =>
    by_cases hmessage : s.message ≠ ""
    · have htotal := s.message_ne_empty_iff.mp hmessage
      simpa [hmessage, htotal] using hshows notifier hnotifier s.message w
    · have htotal := s.message_ne_empty_iff.not.mp hmessage
      simpa [hmessage, htotal] using ends_pure ()

end Expiry
end Pinboard
