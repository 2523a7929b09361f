import Pinboard.Proofs.Json.Refusal
import Pinboard.Proofs.Schedule.Fates

/-!
# The schedule as a plain list

Calls that append records and cancel them, with a look at the list after each, answer as they would
on a list in memory. The list begins with what can be read of the stored text: nothing, if this is
no list, and of a list the items that are records. One kind of text stops all calls, one with a
whole number of more digits than are read.
-/
namespace Pinboard.Schedule

open Time Record

variable {σ : Type}

/-- A call that changes the list of records. -/
inductive Edit where
  | schedule (target : String) (due : Timestamp)
  | cancel (target : String) (due : Timestamp)

/-- What a call answers: the pair that cancels a new record, or whether there was one to remove. -/
inductive Answer where
  | handle (target : String) (due : Timestamp)
  | removed (found : Bool)
  deriving DecidableEq

namespace Edit

def run (storage : KeyValueStore σ) (key : String) : Edit → Action σ Answer
  | .schedule target due => do
    let handle ← Schedule.schedule storage key target due
    pure (.handle handle.1 handle.2)
  | .cancel target due => do pure (.removed (← Schedule.cancel storage key target due))

/-- A call and a look at the list. -/
def runAndLoad (storage : KeyValueStore σ) (key : String) (e : Edit) :
    Action σ (Answer × List Deferred) := do
  let answer ← e.run storage key
  pure (answer, ← load storage key)

/-! ## The plain list -/

/-- A record goes to the end, or the first one with an equal text and an equal moment goes. -/
def apply (records : List Deferred) : Edit → List Deferred
  | .schedule target due => records ++ [.of target due]
  | .cancel target due => records.eraseP fun d => decide (d.key = (Deferred.of target due).key)

/-- Whether the list changes. -/
def changes (records : List Deferred) : Edit → Bool
  | .schedule _ _ => true
  | .cancel target due => records.any fun d => decide (d.key = (Deferred.of target due).key)

def answer (records : List Deferred) (e : Edit) : Answer :=
  match e with
  | .schedule target due => .handle target due.assumeUtc
  | .cancel _ _ => .removed (e.changes records)

end Edit

/-- The answers of calls to a plain list, each with the list after it. -/
def trace (records : List Deferred) : List Edit → List (Answer × List Deferred)
  | [] => []
  | e :: edits => (e.answer records, e.apply records) :: trace (e.apply records) edits

/-- How many of some calls change a plain list. -/
def changes (records : List Deferred) : List Edit → Nat
  | [] => 0
  | e :: edits => (e.changes records).toNat + changes (e.apply records) edits

/-- The record that data describe: text under `target` and a moment under `due_date`. -/
def entry? : Json → Option Deferred
  | .obj fields =>
    match Fields.get? "target" fields, Fields.get? "due_date" fields with
    | some (.str target), some due => (moment due).toOption.map (Deferred.of target)
    | _, _ => none
  | _ => none

/-- The plain list of a stored text: what is no list of JSON has no records. -/
def listed (text : String) : List Deferred :=
  match Json.read text with
  | .ok (.arr items) => items.filterMap entry?
  | _ => []

/-! ## What is read of a text -/

lemma toOption_read (item : Json) : (Deferred.read item).toOption = entry? item := by
  cases item with
  | obj fields =>
    have hread : Deferred.read (.obj fields) = Checked.seq (Checked.map Deferred.of
        (required "target" text fields)) fun _ => required "due_date" moment fields := rfl
    rw [hread, entry?, required, required]
    cases Fields.get? "due_date" fields with
    | none =>
      cases Fields.get? "target" fields with
      | none => rfl
      | some target => cases target <;> rfl
    | some due =>
      cases Fields.get? "target" fields with
      | none => dsimp only; cases moment due <;> rfl
      | some target => cases target <;> dsimp only <;> cases moment due <;> rfl
  | _ => rfl

lemma ofItems_eq (items : List Json) : ofItems items = items.filterMap entry? := by
  simp only [ofItems, toOption_read]

lemma recordsOf_text {text : String} (h : ∀ count, Json.read text ≠ .error (.tooManyDigits count)) :
    recordsOf (some (.str text)) = .ok (listed text) := by
  rw [recordsOf, Stored.itemsOf_text, Stored.itemsOfText, listed]
  cases hread : Json.read text with
  | ok v => cases v <;> simp [Except.map, ofItems_eq]
  | error why =>
    cases why with
    | malformed => rfl
    | tooManyDigits count => exact absurd hread (h count)

lemma recordsOf_tooManyDigits {text : String} {count : Nat}
    (h : Json.read text = .error (.tooManyDigits count)) :
    recordsOf (some (.str text)) = .error (.tooManyDigits count) := by
  rw [recordsOf, Stored.itemsOf_text, Stored.itemsOfText, h]
  rfl

/-- An item that is no record reads as if it was not there. -/
lemma listed_of_malformed {text : String} {before after : List Json} {item : Json}
    (hread : Json.read text = .ok (.arr (before ++ item :: after))) (hitem : entry? item = none) :
    listed text = before.filterMap entry? ++ after.filterMap entry? := by
  simp [listed, hread, hitem]

/-! ## Calls -/

section Calls

variable {storage : KeyValueStore σ} {key : String} {value : σ → Option Json} {writes : σ → Nat}
  {records : List Deferred} {w : σ}

lemma isAt_eq_key (target : String) (due : Timestamp) : Deferred.isAt target due =
    fun d => decide (d.key = (Deferred.of target due).key) :=
  funext fun d => Deferred.isAt_eq target due d

variable (hstorage : storage.Keeps key value) (hcounts : storage.Counts key writes)
include hstorage hcounts

/-- A call answers as it would on the plain list, and writes once if this changes. -/
lemma Holds.run_edit (h : Holds storage key records w) (e : Edit) :
    ∃ w', (e.run storage key).run.run w = (.ok (e.answer records), w') ∧
      Holds storage key (e.apply records) w' ∧
      writes w' = writes w + (e.changes records).toNat := by
  cases e with
  | schedule target due =>
    refine ⟨_, ?_, holds_afterSave hstorage _ (afterRead storage key w), ?_⟩
    · rw [Edit.run, Action.run_bind_ok (h.schedule_eq hstorage target due)]
      rfl
    · rw [writes_afterSave hcounts, writes_afterRead hcounts]
      rfl
  | cancel target due =>
    simp only [Edit.answer, Edit.apply, Edit.changes, ← isAt_eq_key]
    cases hany : records.any (Deferred.isAt target due) with
    | true =>
      refine ⟨_, ?_, holds_afterSave hstorage _ (afterRead storage key w), ?_⟩
      · rw [Edit.run, Action.run_bind_ok (h.cancel_eq_true hstorage hany)]
        rfl
      · rw [writes_afterSave hcounts, writes_afterRead hcounts]
        rfl
    | false =>
      have hsame : records.eraseP (Deferred.isAt target due) = records :=
        List.eraseP_of_forall_not (by simpa using hany)
      refine ⟨_, ?_, hsame.symm ▸ h.reread hstorage, writes_afterRead hcounts w⟩
      rw [Edit.run, Action.run_bind_ok (h.cancel_eq_false hstorage hany)]
      rfl

lemma Holds.runAndLoad_edit (h : Holds storage key records w) (e : Edit) :
    ∃ w', (e.runAndLoad storage key).run.run w = (.ok (e.answer records, e.apply records), w') ∧
      Holds storage key (e.apply records) w' ∧
      writes w' = writes w + (e.changes records).toNat := by
  obtain ⟨w₁, hrun, hholds, hwrites⟩ := h.run_edit hstorage hcounts e
  refine ⟨_, ?_, hholds.reread hstorage, (writes_afterRead hcounts w₁).trans hwrites⟩
  rw [Edit.runAndLoad, Action.run_bind_ok hrun, Action.run_bind_ok (hholds.load_eq hstorage)]
  rfl

lemma Holds.mapM_edits (h : Holds storage key records w) (edits : List Edit) :
    ∃ w', (edits.mapM (Edit.runAndLoad storage key)).run.run w = (.ok (trace records edits), w') ∧
      Holds storage key (edits.foldl Edit.apply records) w' ∧
      writes w' = writes w + changes records edits := by
  induction edits generalizing records w with
  | nil => exact ⟨w, rfl, h, rfl⟩
  | cons e edits ih =>
    obtain ⟨w₁, hfirst, hholds, hwrites⟩ := h.runAndLoad_edit hstorage hcounts e
    obtain ⟨w', hrest, hholds', hwrites'⟩ := ih hholds
    refine ⟨w', ?_, hholds', ?_⟩
    · rw [List.mapM_cons, Action.run_bind_ok hfirst, Action.run_bind_ok hrest]
      rfl
    · rw [hwrites', hwrites, changes, Nat.add_assoc]

omit hcounts in
/-- The pair that scheduling gives cancels the record again, or another one like it. -/
lemma Holds.schedule_cancel (h : Holds storage key records w) (target : String) (due : Timestamp) :
    ∃ w' left, (schedule storage key target due >>= fun handle =>
        cancel storage key handle.1 handle.2).run.run w = (.ok true, w') ∧
      Holds storage key left w' ∧ keys left = keys records := by
  have hscheduled := holds_afterSave hstorage (records ++ [Deferred.of target due])
    (afterRead storage key w)
  have hsame : Deferred.of target due.assumeUtc = Deferred.of target due :=
    Deferred.of_eq_self (.of target due)
  have hany : (records ++ [Deferred.of target due]).any
      (Deferred.isAt target due.assumeUtc) = true := by
    rw [any_isAt_iff, hsame]
    simp
  refine ⟨_, removeFirst target due.assumeUtc (records ++ [Deferred.of target due]), ?_,
    holds_afterSave hstorage _ (afterRead storage key (afterSave storage key
      (records ++ [Deferred.of target due]) (afterRead storage key w))), ?_⟩
  · rw [Action.run_bind_ok (h.schedule_eq hstorage target due)]
    exact hscheduled.cancel_eq_true hstorage hany
  · rw [keys_removeFirst, hsame, keys_append, keys_cons, keys_nil, Multiset.add_cons, add_zero,
      Multiset.erase_cons_head]

end Calls

/-- For every stored text, or without one: if reading it meets a whole number with too many digits,
which takes a row of as many digits in the text, loading and every call fail for it and write
nothing. Otherwise loading gives the plain list of the text, and over any calls the answers and the
lists after them are those of the plain list. It is written once for each change. At any point, a
record that is scheduled can be cancelled by what this gave, and the same texts and moments are
left. -/
theorem edits_eq_plainList {storage : KeyValueStore σ} {key : String} {value : σ → Option Json}
    {writes : σ → Nat} (hstorage : storage.Keeps key value) (hcounts : storage.Counts key writes)
    (stored : Option String) {w : σ} (hstored : value w = stored.map .str) :
    (∀ text count, stored = some text → Json.read text = .error (.tooManyDigits count) →
      Json.LongRow count text.toList ∧
      (load storage key).run.run w = (.error (.tooManyDigits count), afterRead storage key w) ∧
      (∀ e : Edit, (e.run storage key).run.run w =
        (.error (.tooManyDigits count), afterRead storage key w)) ∧
      value (afterRead storage key w) = value w ∧
      writes (afterRead storage key w) = writes w) ∧
    ((∀ text count, stored = some text → Json.read text ≠ .error (.tooManyDigits count)) →
      Holds storage key (stored.elim [] listed) w ∧
      ∀ edits : List Edit, ∃ w',
        (edits.mapM (Edit.runAndLoad storage key)).run.run w =
          (.ok (trace (stored.elim [] listed) edits), w') ∧
        Holds storage key (edits.foldl Edit.apply (stored.elim [] listed)) w' ∧
        writes w' = writes w + changes (stored.elim [] listed) edits ∧
        ∀ target due, ∃ w'' left, (schedule storage key target due >>= fun handle =>
            cancel storage key handle.1 handle.2).run.run w' = (.ok true, w'') ∧
          Holds storage key left w'' ∧
          keys left = keys (edits.foldl Edit.apply (stored.elim [] listed))) := by
  constructor
  · rintro text count rfl hread
    have hload : (load storage key).run.run w =
        (.error (.tooManyDigits count), afterRead storage key w) := by
      rw [load_eq hstorage, hstored, Option.map_some, recordsOf_tooManyDigits hread]
    refine ⟨Json.longRow_of_read hread, hload, fun e => ?_, value_afterRead hstorage w,
      writes_afterRead hcounts w⟩
    cases e with
    | schedule target due =>
      have hschedule : (schedule storage key target due).run.run w =
          (.error (.tooManyDigits count), afterRead storage key w) := Action.run_bind_error hload
      exact Action.run_bind_error hschedule
    | cancel target due =>
      have hcancel : (cancel storage key target due).run.run w =
          (.error (.tooManyDigits count), afterRead storage key w) := Action.run_bind_error hload
      exact Action.run_bind_error hcancel
  · intro hdigits
    have hholds : Holds storage key (stored.elim [] listed) w := by
      rw [holds_iff hstorage, hstored]
      cases stored with
      | none => rfl
      | some text => exact recordsOf_text fun count => hdigits text count rfl
    refine ⟨hholds, fun edits => ?_⟩
    obtain ⟨w', hrun, hafter, hwrites⟩ := hholds.mapM_edits hstorage hcounts edits
    exact ⟨w', hrun, hafter, hwrites, fun target due =>
      hafter.schedule_cancel hstorage target due⟩

end Pinboard.Schedule

/-! ## Journals with other texts -/

namespace Pinboard.Journal

open Json Number Schedule Time

/-- A journal in which somebody left a text. -/
def left (text : String) : Journal := [(Stored.deferredKey, .str text)]

/-- A list with something that is no record, and a bell. -/
def scribbled : String := (Json.arr [.str "x", (bell nineAhead).toJson]).print

lemma read_scribbled : Json.read scribbled = .ok (.arr [.str "x", (bell nineAhead).toJson]) := by
  have hplain : IsPlain (.arr [.str "x", (bell nineAhead).toJson]) := by
    simp [Deferred.isPlain_toJson]
  exact hplain.read_print

lemma listed_scribbled : listed scribbled = [bell nineAhead] := by
  have hbell : entry? (bell nineAhead).toJson = some (bell nineAhead) := by
    rw [← toOption_read, Deferred.read_toJson]
    rfl
  have hread : Json.read scribbled =
      .ok (.arr ([] ++ .str "x" :: [(bell nineAhead).toJson])) := read_scribbled
  rw [listed_of_malformed hread rfl]
  simp [hbell]

/-- The bell is there in spite of what else is. Another one is set, and the first one is called off
under the same moment on another clock: two entries are written. -/
theorem edits_eq_plainList_scribbled :
    ∃ w', ([.schedule "ring" evening, .cancel "ring" nine].mapM
        (Edit.runAndLoad storage Stored.deferredKey)).run.run (left scribbled) =
        (.ok [(.handle "ring" evening, [bell nineAhead, bell evening]),
          (.removed true, [bell evening])], w') ∧
      writes Stored.deferredKey w' = 3 := by
  have hread : ∀ text count, some scribbled = some text →
      Json.read text ≠ .error (.tooManyDigits count) := by
    rintro _ count ⟨⟩ herror
    cases read_scribbled.symm.trans herror
  obtain ⟨-, hall⟩ := edits_eq_plainList (keeps Stored.deferredKey) (counts Stored.deferredKey)
    (some scribbled) (w := left scribbled) rfl
  obtain ⟨-, hedits⟩ := hall hread
  obtain ⟨w', hrun, -, hwrites, -⟩ := hedits [.schedule "ring" evening, .cancel "ring" nine]
  rw [Option.elim_some, listed_scribbled] at hrun hwrites
  exact ⟨w', hrun.trans (congrArg (·, w') (by decide)), hwrites.trans (by decide)⟩

/-- A list that begins with a number of only ones, and a bell. -/
def ones (n : Nat) : String :=
  String.ofList ('[' :: (List.replicate n '1' ++ ',' :: ((bell nine).toJson.chars ++ [']'])))

lemma read_ones {n : Nat} (hn : digitLimit < n) :
    Json.read (ones n) = .error (.tooManyDigits n) := by
  have hscalar : readScalar (List.replicate n '1' ++ ',' :: ((bell nine).toJson.chars ++ [']'])) =
      .error (.tooManyDigits n) := readScalar_ones hn (.inr ⟨_, rfl⟩)
  obtain ⟨n, rfl⟩ := Nat.exists_eq_succ_of_ne_zero (by omega : n ≠ 0)
  rw [ones, Json.read, String.toList_ofList]
  rw [List.replicate_succ, List.cons_append] at hscalar ⊢
  simp [skipGap, isGap, readValue, readItems, hscalar, Except.map]

/-- A list of a number, which is no record, and a bell cannot be read if the number has one digit
too many. No bell can be set then. -/
theorem ones_unreadable :
    (load storage Stored.deferredKey).run.run (left (ones 4301)) =
      (.error (.tooManyDigits 4301), left (ones 4301)) ∧
    (schedule storage Stored.deferredKey "ring" noon).run.run (left (ones 4301)) =
      (.error (.tooManyDigits 4301), left (ones 4301)) := by
  have hload : (load storage Stored.deferredKey).run.run (left (ones 4301)) =
      (.error (.tooManyDigits 4301), left (ones 4301)) := by
    have hget : (storage.get? Stored.deferredKey).run.run (left (ones 4301)) =
        (.ok (some (.str (ones 4301))), left (ones 4301)) := rfl
    rw [load_of_get hget, recordsOf_tooManyDigits (read_ones (by decide))]
  exact ⟨hload, Action.run_bind_error hload⟩

end Pinboard.Journal
