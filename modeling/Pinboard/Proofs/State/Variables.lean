import Pinboard.Proofs.Action
import Pinboard.Proofs.Json.Refusal
import Pinboard.Proofs.Schedule.Journal
import Pinboard.State.Variables

/-!
# Variables as an ordered map

Calls that set, reset, delete and get variables, with a look at the list after each, answer as an
ordered map in memory would. The map begins with what the stored text lists; what is no list of JSON
lists nothing. One kind of text stops all calls, one with a whole number of more digits than are
read.
-/
namespace Pinboard

open Record

variable {σ : Type}

/-- Variables in the order in which they were last set, no two of one name. -/
structure OrderedVars where
  entries : List Variable
  nodup : (entries.map (·.name)).Nodup

namespace OrderedVars

def find? (name : String) (vars : OrderedVars) : Option Variable :=
  vars.entries.find? fun v => v.name = name

def has (name : String) (vars : OrderedVars) : Bool := (vars.find? name).isSome

/-- The variable goes, the others stay where they are. -/
def delete (name : String) (vars : OrderedVars) : OrderedVars where
  entries := vars.entries.eraseP fun v => v.name = name
  nodup := vars.nodup.sublist (List.eraseP_sublist.map _)

/-- Where no two have one name, the first is the only one. -/
lemma entries_delete (name : String) (vars : OrderedVars) :
    (vars.delete name).entries = Variables.without name vars.entries := by
  obtain ⟨entries, hnodup⟩ := vars
  simp only [delete]
  induction entries with
  | nil => rfl
  | cons v entries ih =>
    rw [List.map_cons, List.nodup_cons] at hnodup
    by_cases hv : v.name = name
    · have hothers : Variables.without name entries = entries :=
        List.filter_eq_self.mpr fun u hu => by
          simpa using fun heq : u.name = name =>
            hnodup.1 (List.mem_map.mpr ⟨u, hu, heq.trans hv.symm⟩)
      rw [List.eraseP_cons_of_pos (by simpa using hv), Variables.without,
        List.filter_cons_of_neg (by simpa using hv)]
      exact hothers.symm
    · rw [List.eraseP_cons_of_neg (by simpa using hv), Variables.without,
        List.filter_cons_of_pos (by simpa using hv), ih hnodup.2]
      rfl

lemma name_ne_of_mem_delete {name : String} {vars : OrderedVars} {v : Variable}
    (h : v ∈ (vars.delete name).entries) : v.name ≠ name := by
  rw [entries_delete] at h
  exact (Variables.mem_without.mp h).2

/-- The variable goes to the end with a new value. It keeps its initial value; a new one takes the
value that it is set to. -/
def set (name value : String) (vars : OrderedVars) : OrderedVars where
  entries := (vars.delete name).entries ++
    [⟨name, value, ((vars.find? name).map (·.initial)).getD value⟩]
  nodup := by
    rw [List.map_append, List.nodup_append]
    refine ⟨(vars.delete name).nodup, List.nodup_singleton _, ?_⟩
    rintro a ha b hb rfl
    obtain ⟨v, hv, rfl⟩ := List.mem_map.mp ha
    exact name_ne_of_mem_delete hv (List.mem_singleton.mp hb)

/-- The variable takes its initial value again, where it stands. -/
def reset (name : String) (vars : OrderedVars) : OrderedVars where
  entries := vars.entries.map fun v => if v.name = name then { v with value := v.initial } else v
  nodup := by
    have hnames : ∀ v : Variable,
        (if v.name = name then { v with value := v.initial } else v).name = v.name := by
      intro v
      split <;> rfl
    simpa [Function.comp_def, hnames] using vars.nodup

/-! What is absent cannot be deleted or reset. -/

section Absent

variable {name : String} {vars : OrderedVars} (h : vars.has name = false)
include h

lemma name_ne_of_absent {v : Variable} (hv : v ∈ vars.entries) : v.name ≠ name := by
  have hnone : vars.find? name = none := by simpa [has] using h
  simpa using List.find?_eq_none.mp hnone v hv

lemma delete_of_absent : (vars.delete name).entries = vars.entries :=
  List.eraseP_of_forall_not fun v hv => by simpa using name_ne_of_absent h hv

lemma reset_of_absent : (vars.reset name).entries = vars.entries := by
  have hsame := List.map_congr_left (f := fun v : Variable =>
    if v.name = name then { v with value := v.initial } else v) fun v hv =>
      if_neg (name_ne_of_absent h hv)
  exact hsame.trans (List.map_id' _)

end Absent

/-- A variable that was deleted is new when it is set again. -/
lemma set_delete (name value : String) (vars : OrderedVars) :
    ((vars.delete name).set name value).entries =
      (vars.delete name).entries ++ [⟨name, value, value⟩] := by
  have hnone : (vars.delete name).find? name = none :=
    List.find?_eq_none.mpr fun v hv => by simpa using name_ne_of_mem_delete hv
  have hsame : ((vars.delete name).delete name).entries = (vars.delete name).entries :=
    List.eraseP_of_forall_not fun v hv => by simpa using name_ne_of_mem_delete hv
  simp only [set, hsame, hnone]
  rfl

end OrderedVars

namespace Variables

/-! ## The calls -/

/-- A call on variables. -/
inductive Call where
  | set (name value : String)
  | reset (name : String)
  | delete (name : String)
  | get (name : String)
  deriving DecidableEq

/-- What a call answers: nothing, whether the variable was there, or its value. -/
inductive Answer where
  | done
  | found (present : Bool)
  | value (value : Option String)
  deriving DecidableEq

namespace Call

def run (storage : KeyValueStore σ) : Call → Action σ Answer
  | .set name value => do
    Variables.set storage name value
    pure .done
  | .reset name => do pure (.found (← Variables.reset storage name))
  | .delete name => do pure (.found (← Variables.delete storage name))
  | .get name => do pure (.value (← Variables.get? storage name))

/-- A call and a look at the list. -/
def runAndLoad (storage : KeyValueStore σ) (c : Call) : Action σ (Answer × List Variable) := do
  let answer ← c.run storage
  pure (answer, ← load storage)

def apply (vars : OrderedVars) : Call → OrderedVars
  | .set name value => vars.set name value
  | .reset name => vars.reset name
  | .delete name => vars.delete name
  | .get _ => vars

def answer (vars : OrderedVars) : Call → Answer
  | .set _ _ => .done
  | .reset name => .found (vars.has name)
  | .delete name => .found (vars.has name)
  | .get name => .value ((vars.find? name).map (·.value))

/-- Whether the call writes: not what reads, and not what finds nothing to change. -/
def writes (vars : OrderedVars) : Call → Bool
  | .set _ _ => true
  | .reset name => vars.has name
  | .delete name => vars.has name
  | .get _ => false

end Call

/-- The answers of calls to an ordered map, each with the list after it. -/
def trace (vars : OrderedVars) : List Call → List (Answer × List Variable)
  | [] => []
  | c :: calls => (c.answer vars, (c.apply vars).entries) :: trace (c.apply vars) calls

/-- How many of some calls write. -/
def writeCount (vars : OrderedVars) : List Call → Nat
  | [] => 0
  | c :: calls => (c.writes vars).toNat + writeCount (c.apply vars) calls

/-! ## What is stored -/

/-- The variable that data describe: text under each of its three fields. -/
def ofItem? : Json → Option Variable
  | .obj fields =>
    match Fields.get? "name" fields, Fields.get? "value" fields,
      Fields.get? "initial_value" fields with
    | some (.str name), some (.str value), some (.str initial) => some ⟨name, value, initial⟩
    | _, _, _ => none
  | _ => none

/-- The variables of a text: none of what is no list, and of a list one for each item, if each item
describes one. There is no answer for a text with too many digits. -/
def listed? (text : String) : Option (List Variable) :=
  match Json.read text with
  | .ok (.arr items) => items.mapM ofItem?
  | .ok _ => some []
  | .error .malformed => some []
  | .error (.tooManyDigits _) => none

/-- The variables of a stored value. -/
def storedVars? (stored : Option Json) : Option (List Variable) :=
  match Stored.itemsOf stored with
  | .ok items => items.mapM ofItem?
  | .error _ => none

lemma read_eq {item : Json} {v : Variable} (h : ofItem? item = some v) :
    Variable.read item = .ok v := by
  cases item with
  | obj fields =>
    simp only [ofItem?] at h
    split at h
    · rename_i name value initial hname hvalue hinitial
      obtain rfl := Option.some.inj h
      simp [Variable.read, recordOf, required, hname, hvalue, hinitial, text, Checked.under]
      rfl
    · cases h
  | _ => cases h

lemma mapM_ofItem?_toJson (vars : List Variable) :
    (vars.map Variable.toJson).mapM ofItem? = some vars := by
  induction vars with
  | nil => rfl
  | cons v vars ih =>
    have hfirst : ofItem? v.toJson = some v := rfl
    rw [List.map_cons, List.mapM_cons, hfirst, ih]
    rfl

lemma mapM_read {items : List Json} {vars : List Variable} (h : items.mapM ofItem? = some vars) :
    (items.mapM fun item => (Action.ofChecked "PersistentVariable" (Variable.read item) :
      Action σ Variable)) = pure vars := by
  induction items generalizing vars with
  | nil =>
    obtain rfl : [] = vars := by simpa using h
    rfl
  | cons item items ih =>
    rw [List.mapM_cons] at h ⊢
    obtain ⟨v, hv, hrest⟩ := Option.bind_eq_some_iff.mp h
    obtain ⟨others, hothers, hvars⟩ := Option.bind_eq_some_iff.mp hrest
    obtain rfl : v :: others = vars := Option.some.inj hvars
    rw [read_eq hv, ih hothers]
    rfl

/-- Loading gives the variables that the items describe. -/
lemma load_eq {storage : KeyValueStore σ} {items : List Json} {vars : List Variable} {w w' : σ}
    (h : (Stored.load storage Stored.variablesKey).run.run w = (.ok items, w'))
    (hitems : items.mapM ofItem? = some vars) : (load storage).run.run w = (.ok vars, w') := by
  rw [load, Action.run_bind_ok h, mapM_read hitems]
  rfl

/-- The text under which variables are saved. -/
def saved (vars : List Variable) : Json := .str (Json.arr (vars.map Variable.toJson)).print

lemma storedVars?_saved (vars : List Variable) : storedVars? (some (saved vars)) = some vars := by
  have hplain : (Json.arr (vars.map Variable.toJson)).IsPlain := by simp [Variable.toJson]
  rw [storedVars?, saved, Stored.itemsOf_print hplain]
  exact mapM_ofItem?_toJson vars

lemma storedVars?_text (stored : Option String) :
    storedVars? (stored.map .str) = stored.elim (some []) listed? := by
  cases stored with
  | none => rfl
  | some text =>
    rw [Option.map_some, storedVars?, Stored.itemsOf_text, Stored.itemsOfText, Option.elim_some,
      listed?]
    cases Json.read text with
    | ok v => cases v <;> rfl
    | error why => cases why <;> rfl

/-! ## The steps of the calls -/

lemma find?_entries (name : String) (vars : OrderedVars) :
    find? name vars.entries = vars.find? name := by
  have hsame : (fun v : Variable => v.name == name) = fun v => decide (v.name = name) :=
    funext fun v => Bool.beq_eq_decide_eq v.name name
  rw [find?, hsame]
  rfl

lemma put_entries (name value : String) (vars : OrderedVars) :
    put name value vars.entries = (vars.set name value).entries := by
  rw [put, find?_entries, ← OrderedVars.entries_delete]
  rfl

lemma restore_entries (name : String) (vars : OrderedVars) :
    restore name vars.entries = (vars.reset name).entries := by
  obtain ⟨entries, hnodup⟩ := vars
  simp only [OrderedVars.reset]
  induction entries with
  | nil => rfl
  | cons v entries ih =>
    rw [List.map_cons, List.nodup_cons] at hnodup
    rw [restore, List.map_cons]
    split
    · rename_i hv
      -- no later one has the name
      have hothers : ∀ u ∈ entries, u.name ≠ name := fun u hu heq =>
        hnodup.1 (List.mem_map.mpr ⟨u, hu, heq.trans hv.symm⟩)
      rw [List.map_congr_left fun u hu => if_neg (hothers u hu), List.map_id']
    · rw [ih hnodup.2]

/-! ## What the calls do -/

section Calls

variable {storage : KeyValueStore σ} {value : σ → Option Json} {writes : σ → Nat} {w : σ}
  {vars : OrderedVars}

/-- What is seen of a state: the variables that are stored and how often they were. -/
def view (value : σ → Option Json) (writes : σ → Nat) (w : σ) : Option (List Variable) × Nat :=
  (storedVars? (value w), writes w)

variable (hstorage : storage.Keeps Stored.variablesKey value)
  (hcounts : storage.Counts Stored.variablesKey writes)
include hstorage hcounts

lemma ends_load {entries : List Variable} {n : Nat} (h : view value writes w = (some entries, n)) :
    Action.Ends (view value writes) (load storage) w (.ok entries) (some entries, n) := by
  obtain ⟨w', hget, hvalue⟩ := hstorage.get w
  have hwrites : writes w' = writes w := by simpa [hget] using hcounts.get w
  have hstored : storedVars? (value w) = some entries := congrArg Prod.fst h
  rw [storedVars?] at hstored
  cases hitems : Stored.itemsOf (value w) with
  | error fault => simp [hitems] at hstored
  | ok items =>
    rw [hitems] at hstored
    have hload : (Stored.load storage Stored.variablesKey).run.run w = (.ok items, w') := by
      rw [Stored.load, Action.run_bind_ok hget, hitems]
      rfl
    exact ⟨w', load_eq hload hstored, by rw [← h, view, view, hvalue, hwrites]⟩

/-- A stored value that cannot be read makes loading fail, which writes nothing. -/
lemma ends_load_refused {fault : Fault} (h : Stored.itemsOf (value w) = .error fault) :
    Action.Ends (fun w => (value w, writes w)) (load storage) w (.error fault)
      (value w, writes w) := by
  obtain ⟨w', hget, hvalue⟩ := hstorage.get w
  have hwrites : writes w' = writes w := by simpa [hget] using hcounts.get w
  have hstopped : (Stored.load storage Stored.variablesKey).run.run w = (.error fault, w') := by
    rw [Stored.load, Action.run_bind_ok hget, h]
    rfl
  exact ⟨w', Action.run_bind_error hstopped, Prod.ext hvalue hwrites⟩

/-- Every call loads first. -/
lemma ends_run_refused {fault : Fault} (h : Stored.itemsOf (value w) = .error fault) (c : Call) :
    Action.Ends (fun w => (value w, writes w)) (c.run storage) w (.error fault)
      (value w, writes w) := by
  have hload := ends_load_refused hstorage hcounts h
  cases c with
  | set name value' => exact hload.bind_error.bind_error
  | reset name => exact hload.bind_error.bind_error
  | delete name => exact hload.bind_error.bind_error
  | get name => exact hload.bind_error.bind_error

lemma ends_save {n : Nat} (hn : writes w = n) (vars : List Variable) :
    Action.Ends (view value writes) (save storage vars) w (.ok ()) (some vars, n + 1) := by
  obtain ⟨w', hset, hvalue⟩ := hstorage.set (saved vars) w
  have hwrites : writes w' = writes w + 1 := by simpa [hset] using hcounts.set (saved vars) w
  exact ⟨w', hset, by rw [view, hvalue, storedVars?_saved, hwrites, hn]⟩

variable {n : Nat} (h : view value writes w = (some vars.entries, n))
include h

lemma ends_set (name value' : String) :
    Action.Ends (view value writes) (set storage name value') w (.ok ())
      (some (vars.set name value').entries, n + 1) := by
  refine (ends_load hstorage hcounts h).bind fun w₁ h₁ => ?_
  exact put_entries name value' vars ▸ ends_save hstorage hcounts (congrArg Prod.snd h₁) _

/-- The calls that need the variable to be there write once if it is, and else not. -/
lemma ends_if_found (name : String) (entries : List Variable) :
    Action.Ends (view value writes)
      (do
        if (find? name vars.entries).isSome then
          save storage entries
          pure true
        else pure false) w
      (.ok (vars.has name))
      (some (if vars.has name then entries else vars.entries), n + (vars.has name).toNat) := by
  rw [find?_entries, ← OrderedVars.has]
  split
  · rename_i hfound
    rw [hfound]
    exact (ends_save hstorage hcounts (congrArg Prod.snd h) entries).bind_pure fun _ => true
  · rename_i hfound
    rw [Bool.eq_false_of_not_eq_true hfound]
    exact h ▸ Action.ends_pure false

lemma ends_reset (name : String) :
    Action.Ends (view value writes) (reset storage name) w (.ok (vars.has name))
      (some (vars.reset name).entries, n + (vars.has name).toNat) := by
  refine (ends_load hstorage hcounts h).bind fun w₁ h₁ => ?_
  have hfound := ends_if_found hstorage hcounts h₁ name (restore name vars.entries)
  have hsame : (if vars.has name then restore name vars.entries else vars.entries) =
      (vars.reset name).entries := by
    split
    · exact restore_entries name vars
    · exact (OrderedVars.reset_of_absent (Bool.eq_false_of_not_eq_true ‹_›)).symm
  rwa [hsame] at hfound

lemma ends_delete (name : String) :
    Action.Ends (view value writes) (delete storage name) w (.ok (vars.has name))
      (some (vars.delete name).entries, n + (vars.has name).toNat) := by
  refine (ends_load hstorage hcounts h).bind fun w₁ h₁ => ?_
  have hfound := ends_if_found hstorage hcounts h₁ name (without name vars.entries)
  have hsame : (if vars.has name then without name vars.entries else vars.entries) =
      (vars.delete name).entries := by
    split
    · exact (OrderedVars.entries_delete name vars).symm
    · exact (OrderedVars.delete_of_absent (Bool.eq_false_of_not_eq_true ‹_›)).symm
  rwa [hsame] at hfound

lemma ends_get (name : String) :
    Action.Ends (view value writes) (get? storage name) w
      (.ok ((vars.find? name).map (·.value))) (some vars.entries, n) := by
  rw [← find?_entries]
  exact (ends_load hstorage hcounts h).bind_pure fun vars => (find? name vars).map (·.value)

/-- A call answers as the ordered map, leaves what it leaves and writes once if it has to. -/
lemma ends_run (c : Call) : Action.Ends (view value writes) (c.run storage) w
    (.ok (c.answer vars)) (some (c.apply vars).entries, n + (c.writes vars).toNat) := by
  cases c with
  | set name value' => exact (ends_set hstorage hcounts h name value').bind_pure fun _ => Answer.done
  | reset name => exact (ends_reset hstorage hcounts h name).bind_pure Answer.found
  | delete name => exact (ends_delete hstorage hcounts h name).bind_pure Answer.found
  | get name => exact (ends_get hstorage hcounts h name).bind_pure Answer.value

lemma ends_runAndLoad (c : Call) : Action.Ends (view value writes) (c.runAndLoad storage) w
    (.ok (c.answer vars, (c.apply vars).entries))
    (some (c.apply vars).entries, n + (c.writes vars).toNat) :=
  (ends_run hstorage hcounts h c).bind fun _ hafter =>
    (ends_load hstorage hcounts hafter).bind_pure _

lemma ends_calls (calls : List Call) :
    Action.Ends (view value writes) (calls.mapM (Call.runAndLoad storage)) w
      (.ok (trace vars calls))
      (some (calls.foldl Call.apply vars).entries, n + writeCount vars calls) := by
  induction calls generalizing vars w n with
  | nil => exact ⟨w, rfl, h⟩
  | cons c calls ih =>
    rw [List.mapM_cons, writeCount, ← Nat.add_assoc]
    exact (ends_runAndLoad hstorage hcounts h c).bind fun _ hafter =>
      (ih hafter).bind_pure _

end Calls

/-- For every stored text, or without one: if reading it meets a whole number with too many digits,
which takes a row of as many digits in the text, loading and every call fail for it and write
nothing. Otherwise, if no two of the variables that it lists have one name, loading gives them, and
over any calls the answers and the lists after them are those of an ordered map, which holds no name
twice. It is written once for each call that has to. At any point, a variable that is deleted and
set again takes the new value as its initial one. -/
theorem calls_eq_orderedVars {storage : KeyValueStore σ} {value : σ → Option Json}
    {writes : σ → Nat} (hstorage : storage.Keeps Stored.variablesKey value)
    (hcounts : storage.Counts Stored.variablesKey writes) (stored : Option String) {w : σ}
    (hstored : value w = stored.map .str) :
    (∀ text count, stored = some text → Json.read text = .error (.tooManyDigits count) →
      Json.LongRow count text.toList ∧
      Action.Ends (fun w => (value w, writes w)) (load storage) w (.error (.tooManyDigits count))
        (value w, writes w) ∧
      ∀ c : Call, Action.Ends (fun w => (value w, writes w)) (c.run storage) w
        (.error (.tooManyDigits count)) (value w, writes w)) ∧
    ∀ vars : OrderedVars, stored.elim (some []) listed? = some vars.entries →
      ((load storage).run.run w).1 = .ok vars.entries ∧
      ∀ calls : List Call,
        (∃ w', (calls.mapM (Call.runAndLoad storage)).run.run w = (.ok (trace vars calls), w') ∧
          writes w' = writes w + writeCount vars calls) ∧
        ∀ name value, (((calls.foldl Call.apply vars).delete name).set name value).entries =
          ((calls.foldl Call.apply vars).delete name).entries ++ [⟨name, value, value⟩] := by
  constructor
  · rintro text count rfl hread
    have hitems : Stored.itemsOf (value w) = .error (.tooManyDigits count) := by
      rw [hstored, Option.map_some, Stored.itemsOf_text, Stored.itemsOfText, hread]
    exact ⟨Json.longRow_of_read hread, ends_load_refused hstorage hcounts hitems,
      ends_run_refused hstorage hcounts hitems⟩
  · intro vars hlisted
    have hview : view value writes w = (some vars.entries, writes w) := by
      rw [view, hstored, storedVars?_text, hlisted]
    refine ⟨?_, fun calls => ⟨?_, fun name value =>
      (calls.foldl Call.apply vars).set_delete name value⟩⟩
    · obtain ⟨w', hload, -⟩ := ends_load hstorage hcounts hview
      rw [hload]
    · obtain ⟨w', hrun, hafter⟩ := ends_calls hstorage hcounts hview calls
      exact ⟨w', hrun, congrArg Prod.snd hafter⟩

end Variables

/-! ## In a journal -/

namespace Journal

open Variables

/-- A journal with a text in the place of the variables. -/
def keeping (text : String) : Journal := [(Stored.variablesKey, .str text)]

/-- A color that was changed since it was first set, and a size. -/
def colorAndSize : OrderedVars where
  entries := [⟨"color", "blue", "red"⟩, ⟨"size", "2", "2"⟩]
  nodup := by decide

/-- The text under which they are saved. -/
def colorAndSizeText : String := (Json.arr (colorAndSize.entries.map Variable.toJson)).print

/-- The size goes to the end when it is set, the color stays in its place when it is reset; what is
not there is not deleted; the size, once deleted, is new. Five of the calls write. -/
theorem calls_eq_orderedVars_colorAndSize :
    ∃ w', ([.set "color" "green", .set "size" "3", .reset "color", .delete "shape",
          .delete "size", .set "size" "4", .get "size"].mapM (Call.runAndLoad storage)).run.run
        (keeping colorAndSizeText) =
      (.ok [(.done, [⟨"size", "2", "2"⟩, ⟨"color", "green", "red"⟩]),
        (.done, [⟨"color", "green", "red"⟩, ⟨"size", "3", "2"⟩]),
        (.found true, [⟨"color", "red", "red"⟩, ⟨"size", "3", "2"⟩]),
        (.found false, [⟨"color", "red", "red"⟩, ⟨"size", "3", "2"⟩]),
        (.found true, [⟨"color", "red", "red"⟩]),
        (.done, [⟨"color", "red", "red"⟩, ⟨"size", "4", "4"⟩]),
        (.value (some "4"), [⟨"color", "red", "red"⟩, ⟨"size", "4", "4"⟩])], w') ∧
      writes Stored.variablesKey w' = 6 := by
  have hlisted : (some colorAndSizeText).elim (some []) listed? = some colorAndSize.entries :=
    (storedVars?_text (some colorAndSizeText)).symm.trans (storedVars?_saved colorAndSize.entries)
  obtain ⟨-, hcalls⟩ := calls_eq_orderedVars (keeps Stored.variablesKey)
    (counts Stored.variablesKey) (some colorAndSizeText) (w := keeping colorAndSizeText) rfl
  obtain ⟨-, hruns⟩ := hcalls colorAndSize hlisted
  obtain ⟨⟨w', hrun, hwrites⟩, -⟩ := hruns [.set "color" "green", .set "size" "3",
    .reset "color", .delete "shape", .delete "size", .set "size" "4", .get "size"]
  exact ⟨w', hrun.trans (congrArg (·, w') (by decide)), hwrites.trans (by decide)⟩

/-- A number of only ones, which is no list. -/
def onesText (n : Nat) : String := String.ofList (List.replicate n '1')

/-- The number hides the variables if it has one digit too many, and none can be set then. -/
theorem onesText_hides_variables :
    (load storage).run.run (keeping (onesText 4301)) =
      (.error (.tooManyDigits 4301), keeping (onesText 4301)) ∧
    (set storage "color" "red").run.run (keeping (onesText 4301)) =
      (.error (.tooManyDigits 4301), keeping (onesText 4301)) := by
  have hitems : Stored.itemsOf (some (.str (onesText 4301))) = .error (.tooManyDigits 4301) := by
    rw [Stored.itemsOf_text, Stored.itemsOfText, onesText, Json.read_replicate_ones (by decide)]
  have hget : (storage.get? Stored.variablesKey).run.run (keeping (onesText 4301)) =
      (.ok (some (.str (onesText 4301))), keeping (onesText 4301)) := rfl
  have hstopped : (Stored.load storage Stored.variablesKey).run.run (keeping (onesText 4301)) =
      (.error (.tooManyDigits 4301), keeping (onesText 4301)) := by
    rw [Stored.load, Action.run_bind_ok hget, hitems]
    rfl
  have hload : (load storage).run.run (keeping (onesText 4301)) =
      (.error (.tooManyDigits 4301), keeping (onesText 4301)) := Action.run_bind_error hstopped
  exact ⟨hload, Action.run_bind_error hload⟩

end Journal

end Pinboard
