import Pinboard.Proofs.Json.RoundTrip
import Pinboard.Proofs.Time.Stored
import Pinboard.Schedule
import Pinboard.Store.Memory

/-!
# Records under a key

What the operations on the schedule do to the list of records that is kept under a key, in a store
that works for this key. A list that was saved is loaded as it was.
-/
namespace Pinboard

open Time Record

variable {σ α β : Type}

namespace Action

variable {x : Action σ α} {f : α → Action σ β} {w w' : σ}

lemma run_bind_ok {a : α} (h : x.run.run w = (.ok a, w')) :
    (x >>= f).run.run w = (f a).run.run w' := by
  rw [ExceptT.run_bind, StateT.run_bind, h]
  rfl

lemma run_bind_error {e : Fault} (h : x.run.run w = (.error e, w')) :
    (x >>= f).run.run w = (.error e, w') := by
  rw [ExceptT.run_bind, StateT.run_bind, h]
  rfl

/-- An action that is tried ends in the state of the action, fault or not. -/
lemma run_total_orElse (x : Action σ α) (default : α) (w : σ) :
    ∃ a, (total (orElse x default)).run.run w = (.ok a, (x.run.run w).2) := by
  have htotal : (total (orElse x default)).run.run w
      = (.ok (orElse x default w).1, (orElse x default w).2) := rfl
  refine ⟨(orElse x default w).1, ?_⟩
  rw [htotal, orElse, StateT.run]
  split <;> simp_all

/-- Every value that an action ends with has a property. -/
def Yields (x : Action σ α) (P : α → Prop) : Prop := ∀ w a, (x.run.run w).1 = .ok a → P a

lemma yields_pure {P : α → Prop} {a : α} (h : P a) : Yields (pure a : Action σ α) P :=
  fun _ _ hpure => Except.ok.inj hpure ▸ h

lemma yields_throw {P : α → Prop} (fault : Fault) : Yields (throw fault : Action σ α) P :=
  fun _ _ h => by cases h

lemma Yields.bind {P : α → Prop} {Q : β → Prop} (hx : Yields x P)
    (h : ∀ a, P a → Yields (f a) Q) : Yields (x >>= f) Q := by
  intro w b hb
  cases hrun : x.run.run w with
  | mk result w₁ =>
  cases result with
  | ok a => exact h a (hx w a (by rw [hrun])) w₁ b (by rwa [run_bind_ok hrun] at hb)
  | error e =>
    rw [run_bind_error hrun] at hb
    cases hb

lemma yields_bind {Q : β → Prop} (h : ∀ a, Yields (f a) Q) : Yields (x >>= f) Q :=
  Yields.bind (fun _ _ _ => trivial) fun a _ => h a

lemma Yields.run_orElse {P : α → Prop} {default : α} (h : Yields x P) (hdefault : P default)
    (w : σ) : P ((orElse x default).run w).1 := by
  cases hx : x.run.run w with
  | mk result w₁ =>
  have hrun : ExceptT.run x w = (result, w₁) := hx
  rw [StateT.run, orElse, hrun]
  cases result with
  | ok a => exact h w a (by rw [hx])
  | error e => exact hdefault

end Action

namespace KeyValueStore

/-- A store that works for a key: reading gives the value under it and leaves it there, and what is
written is there afterwards. -/
structure Keeps (storage : KeyValueStore σ) (key : String) (value : σ → Option Json) : Prop where
  get : ∀ w, ∃ w', (storage.get? key).run.run w = (.ok (value w), w') ∧ value w' = value w
  set : ∀ v w, ∃ w', (storage.set key v).run.run w = (.ok (), w') ∧ value w' = some v

/-- A state that tells how often a key was written. -/
structure Counts (storage : KeyValueStore σ) (key : String) (writes : σ → Nat) : Prop where
  get : ∀ w, writes ((storage.get? key).run.run w).2 = writes w
  set : ∀ v w, writes ((storage.set key v).run.run w).2 = writes w + 1

end KeyValueStore

/-- The store in memory works for every key. -/
lemma Memory.keyValues_keeps {shelf : Memory.Shelf σ (Fields Json)}
    (hshelf : ∀ values w, shelf.value (shelf.put values w) = values) (key : String) :
    (Memory.keyValues shelf).Keeps key fun w => (shelf.value w).get? key where
  get w := ⟨w, rfl, rfl⟩
  set v w := ⟨_, rfl, by rw [hshelf, Fields.get?_set, if_pos rfl]⟩

/-- An empty text is read as what is no JSON. -/
lemma Stored.itemsOf_text (text : String) : itemsOf (some (.str text)) = itemsOfText text := by
  by_cases hempty : text = ""
  · subst hempty
    rfl
  · have htrue : Json.isTrue (.str text) = true := by simp [Json.isTrue, hempty]
    rw [itemsOf, Option.filter_some, if_pos htrue]

/-- A list that was printed is read back. -/
lemma Stored.itemsOf_print {items : List Json} (h : (Json.arr items).IsPlain) :
    itemsOf (some (.str (Json.arr items).print)) = .ok items := by
  rw [itemsOf_text, itemsOfText, h.read_print]

namespace Deferred

/-- The text and the moment, by which records are told apart. -/
def key (d : Deferred) : String × Int := (d.target, d.due.instant)

lemma isAt_eq (target : String) (due : Timestamp) (d : Deferred) :
    isAt target due d = decide (d.key = (of target due).key) := by
  simp [isAt, key, of, Prod.ext_iff, Bool.beq_eq_decide_eq]

@[simp] lemma isAt_of (target : String) (due : Timestamp) :
    isAt (of target due).target (of target due).due = isAt target due := by
  funext d
  simp [isAt, of]

lemma of_eq_self (d : Deferred) : of d.target d.due = d := by
  obtain ⟨target, due, haware⟩ := d
  have hsome : due.offset.isSome = true := haware
  obtain ⟨o, ho⟩ := Option.isSome_iff_exists.mp hsome
  simp [of, Timestamp.assumeUtc, ho]

lemma isDue_eq {d d' : Deferred} (h : d.key = d'.key) (now : Timestamp) :
    d.isDue now = d'.isDue now := by
  have hinstant : d.due.instant = d'.due.instant := (Prod.ext_iff.mp h).2
  simp only [isDue, hinstant]

lemma read_toJson (d : Deferred) : read d.toJson = .ok d := by
  have hfields : read d.toJson = .ok (of d.target d.due) := by
    simp [read, toJson, recordOf, required, Fields.get?, moment_toJson, text, Checked.under]
    rfl
  rw [hfields, of_eq_self]

lemma isPlain_toJson (d : Deferred) : d.toJson.IsPlain := by
  simp [toJson, Timestamp.toJson]

end Deferred

namespace Schedule

/-- The records of a stored value. -/
def recordsOf (stored : Option Json) : Except Fault (List Deferred) :=
  (Stored.itemsOf stored).map ofItems

lemma ofItems_toJson (records : List Deferred) :
    ofItems (records.map Deferred.toJson) = records := by
  induction records with
  | nil => rfl
  | cons d records ih =>
    have hread : (Deferred.read d.toJson).toOption = some d := by rw [Deferred.read_toJson]; rfl
    simpa [ofItems, hread] using ih

/-- The text under which records are saved. -/
def saved (records : List Deferred) : Json := .str (Json.arr (records.map Deferred.toJson)).print

lemma recordsOf_saved (records : List Deferred) :
    recordsOf (some (saved records)) = .ok records := by
  have hplain : (Json.arr (records.map Deferred.toJson)).IsPlain := by
    simp [Deferred.isPlain_toJson]
  rw [recordsOf, saved, Stored.itemsOf_print hplain, Except.map, ofItems_toJson]

/-! ## What the operations do -/

section Operations

variable (storage : KeyValueStore σ) (key : String)

/-- Loading gives these records. -/
def Holds (records : List Deferred) (w : σ) : Prop :=
  ((load storage key).run.run w).1 = .ok records

/-- The state after the key was read. -/
def afterRead (w : σ) : σ := ((storage.get? key).run.run w).2

/-- The state after records were saved. -/
def afterSave (records : List Deferred) (w : σ) : σ :=
  ((storage.set key (saved records)).run.run w).2

variable {storage key}

lemma load_of_get {stored : Option Json} {w w' : σ}
    (hget : (storage.get? key).run.run w = (.ok stored, w')) :
    (load storage key).run.run w = (recordsOf stored, w') := by
  have hstored : (Stored.load storage key).run.run w = (Stored.itemsOf stored, w') := by
    rw [Stored.load, Action.run_bind_ok hget]
    cases Stored.itemsOf stored <;> rfl
  rw [load, recordsOf]
  cases hitems : Stored.itemsOf stored with
  | ok items =>
    rw [hitems] at hstored
    rw [Action.run_bind_ok hstored]
    rfl
  | error fault =>
    rw [hitems] at hstored
    rw [Action.run_bind_error hstored]
    rfl

lemma load_of_get_error {fault : Fault} {w w' : σ}
    (hget : (storage.get? key).run.run w = (.error fault, w')) :
    (load storage key).run.run w = (.error fault, w') := by
  have hstored : (Stored.load storage key).run.run w = (.error fault, w') :=
    Action.run_bind_error hget
  rw [load, Action.run_bind_error hstored]

lemma Holds.unique {records records' : List Deferred} {w : σ} (h : Holds storage key records w)
    (h' : Holds storage key records' w) : records = records' :=
  Except.ok.inj (h.symm.trans h')

section Writes

variable {writes : σ → Nat} (hcounts : storage.Counts key writes)
include hcounts

lemma writes_afterRead (w : σ) : writes (afterRead storage key w) = writes w := hcounts.get w

lemma writes_afterSave (records : List Deferred) (w : σ) :
    writes (afterSave storage key records w) = writes w + 1 := hcounts.set _ w

end Writes

variable {value : σ → Option Json} (hstorage : storage.Keeps key value)

include hstorage

lemma value_afterRead (w : σ) : value (afterRead storage key w) = value w := by
  obtain ⟨w', hget, hvalue⟩ := hstorage.get w
  rwa [afterRead, hget]

lemma load_eq (w : σ) :
    (load storage key).run.run w = (recordsOf (value w), afterRead storage key w) := by
  obtain ⟨w', hget, -⟩ := hstorage.get w
  have hafter : afterRead storage key w = w' := by rw [afterRead, hget]
  rw [hafter, load_of_get hget]

lemma holds_iff {records : List Deferred} {w : σ} :
    Holds storage key records w ↔ recordsOf (value w) = .ok records := by
  rw [Holds, load_eq hstorage]

lemma Holds.load_eq {records : List Deferred} {w : σ} (h : Holds storage key records w) :
    (load storage key).run.run w = (.ok records, afterRead storage key w) := by
  rw [Schedule.load_eq hstorage, (holds_iff hstorage).mp h]

lemma Holds.of_value {records : List Deferred} {w w' : σ} (h : Holds storage key records w)
    (hvalue : value w' = value w) : Holds storage key records w' := by
  rw [holds_iff hstorage, hvalue]
  exact (holds_iff hstorage).mp h

lemma Holds.reread {records : List Deferred} {w : σ} (h : Holds storage key records w) :
    Holds storage key records (afterRead storage key w) :=
  h.of_value hstorage (value_afterRead hstorage w)

lemma save_eq (records : List Deferred) (w : σ) :
    (save storage key records).run.run w = (.ok (), afterSave storage key records w) := by
  obtain ⟨w', hset, -⟩ := hstorage.set (saved records) w
  have hafter : afterSave storage key records w = w' := by rw [afterSave, hset]
  rw [hafter]
  exact hset

lemma holds_afterSave (records : List Deferred) (w : σ) :
    Holds storage key records (afterSave storage key records w) := by
  obtain ⟨w', hset, hvalue⟩ := hstorage.set (saved records) w
  rw [holds_iff hstorage, afterSave, hset, hvalue, recordsOf_saved]

variable {records : List Deferred} {w : σ} (h : Holds storage key records w)
include h

/-- A record goes to the end. -/
lemma Holds.schedule_eq (target : String) (due : Timestamp) :
    (schedule storage key target due).run.run w =
      (.ok (target, due.assumeUtc),
        afterSave storage key (records ++ [Deferred.of target due]) (afterRead storage key w)) := by
  rw [schedule, Action.run_bind_ok (h.load_eq hstorage), Action.run_bind_ok (save_eq hstorage _ _)]
  rfl

/-- The first record with the text and the moment goes. -/
lemma Holds.cancel_eq_true {target : String} {due : Timestamp}
    (hany : records.any (Deferred.isAt target due) = true) :
    (cancel storage key target due).run.run w =
      (.ok true,
        afterSave storage key (removeFirst target due records) (afterRead storage key w)) := by
  rw [cancel, Action.run_bind_ok (h.load_eq hstorage), if_pos hany,
    Action.run_bind_ok (save_eq hstorage _ _)]
  rfl

lemma Holds.cancel_eq_false {target : String} {due : Timestamp}
    (hnone : records.any (Deferred.isAt target due) = false) :
    (cancel storage key target due).run.run w = (.ok false, afterRead storage key w) := by
  rw [cancel, Action.run_bind_ok (h.load_eq hstorage), if_neg (by simp [hnone])]
  rfl

lemma Holds.of_schedule {target : String} {due : Timestamp} {handle : String × Timestamp} {w' : σ}
    (hrun : (schedule storage key target due).run.run w = (.ok handle, w')) :
    w' = afterSave storage key (records ++ [Deferred.of target due])
      (afterRead storage key w) := by
  rw [h.schedule_eq hstorage] at hrun
  exact (Prod.mk.inj hrun).2.symm

lemma Holds.of_cancel_true {target : String} {due : Timestamp} {w' : σ}
    (hrun : (cancel storage key target due).run.run w = (.ok true, w')) :
    records.any (Deferred.isAt target due) = true ∧
      w' = afterSave storage key (removeFirst target due records) (afterRead storage key w) := by
  cases hany : records.any (Deferred.isAt target due) with
  | true =>
    rw [h.cancel_eq_true hstorage hany] at hrun
    exact ⟨rfl, (Prod.mk.inj hrun).2.symm⟩
  | false =>
    rw [h.cancel_eq_false hstorage hany] at hrun
    cases Except.ok.inj (Prod.mk.inj hrun).1

lemma Holds.of_cancel_false {target : String} {due : Timestamp} {w' : σ}
    (hrun : (cancel storage key target due).run.run w = (.ok false, w')) :
    records.any (Deferred.isAt target due) = false ∧ w' = afterRead storage key w := by
  cases hany : records.any (Deferred.isAt target due) with
  | true =>
    rw [h.cancel_eq_true hstorage hany] at hrun
    cases Except.ok.inj (Prod.mk.inj hrun).1
  | false =>
    rw [h.cancel_eq_false hstorage hany] at hrun
    exact ⟨rfl, (Prod.mk.inj hrun).2.symm⟩

end Operations

end Schedule

end Pinboard
