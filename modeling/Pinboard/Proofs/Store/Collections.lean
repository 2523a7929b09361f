import Pinboard.Proofs.Store.Documents

/-!
# Two collections of the same items

A collection on a server and one in memory answer the same calls with the same items, in the same
order, as long as the server does with documents what is usual.
-/
namespace Pinboard

open Time

/-! ## Collections in memory -/

namespace Memory

variable {α : Type} [Item α]

lemma latest?_cons (id : String) (item : α) (items : List α) : latest? id (item :: items) =
    (latest? id items).or (if Item.id item == id then some item else none) := by
  simp only [latest?, List.reverse_cons, List.find?_append, List.find?_singleton]

lemma id_latest? {id : String} {items : List α} {item : α} (h : latest? id items = some item) :
    Item.id item = id := by
  simpa using List.find?_some h

lemma map_id_update (items stored : List α) :
    (update items stored).map Item.id = stored.map Item.id := by
  rw [update, List.map_map]
  refine List.map_congr_left fun s _ => ?_
  cases hlatest : latest? (Item.id s) items with
  | none => simp [hlatest]
  | some item => simpa [hlatest] using id_latest? hlatest

/-- Items are updated one after the other. -/
lemma update_cons (item : α) (items stored : List α) :
    update (item :: items) stored = update items (update [item] stored) := by
  rw [update, update, update, List.map_map]
  refine List.map_congr_left fun s _ => ?_
  have hall := latest?_cons (Item.id s) item items
  by_cases hid : Item.id item = Item.id s
  · have hone : latest? (Item.id s) [item] = some item := by simp [latest?, hid]
    simp only [Function.comp_apply, hall, hone, Option.getD_some, hid]
    cases latest? (Item.id s) items <;> simp
  · have hone : latest? (Item.id s) [item] = none := by simp [latest?, hid]
    simp only [Function.comp_apply, hall, hone, Option.getD_none]
    simp [hid]

section Middle

variable {before after : List α} {item : α}

lemma update_of_ne {stored : List α} (h : ∀ s ∈ stored, Item.id s ≠ Item.id item) :
    update [item] stored = stored := by
  rw [update, List.map_congr_left (g := id), List.map_id]
  intro s hs
  simp [latest?, Ne.symm (h s hs)]

lemma remove_of_ne {stored : List α} (h : ∀ s ∈ stored, Item.id s ≠ Item.id item) :
    remove [item] stored = stored := by
  refine List.filter_eq_self.mpr fun s hs => ?_
  simp [Ne.symm (h s hs)]

/-- Where ids are distinct, no other item has that of one among them. -/
lemma ne_of_nodup (hids : ((before ++ item :: after).map Item.id).Nodup) :
    (∀ s ∈ before, Item.id s ≠ Item.id item) ∧ ∀ s ∈ after, Item.id s ≠ Item.id item := by
  rw [List.map_append, List.map_cons, List.nodup_middle, List.nodup_cons, ← List.map_append] at hids
  have hother : ∀ s ∈ before ++ after, Item.id s ≠ Item.id item := fun s hs heq =>
    hids.1 (List.mem_map.mpr ⟨s, hs, heq⟩)
  exact ⟨fun s hs => hother s (List.mem_append_left _ hs),
    fun s hs => hother s (List.mem_append_right _ hs)⟩

lemma update_middle {changed : α} (hids : ((before ++ item :: after).map Item.id).Nodup)
    (hid : Item.id changed = Item.id item) :
    update [changed] (before ++ item :: after) = before ++ changed :: after := by
  obtain ⟨hbefore, hafter⟩ := ne_of_nodup hids
  rw [← hid] at hbefore hafter
  have happend : update [changed] (before ++ item :: after) =
      update [changed] before ++ update [changed] [item] ++ update [changed] after := by
    simp [update]
  have hsame : update [changed] [item] = [changed] := by simp [update, latest?, hid]
  rw [happend, update_of_ne hbefore, update_of_ne hafter, hsame, List.append_assoc]
  rfl

lemma remove_middle (hids : ((before ++ item :: after).map Item.id).Nodup) :
    remove [item] (before ++ item :: after) = before ++ after := by
  obtain ⟨hbefore, hafter⟩ := ne_of_nodup hids
  have happend : remove [item] (before ++ item :: after) =
      remove [item] before ++ remove [item] after := by
    simp [remove]
  rw [happend, remove_of_ne hbefore, remove_of_ne hafter]

end Middle

end Memory

/-! ## Collections on a server -/

/-- A server that does with the documents of a collection what is usual, as far as a store of items
needs it: it lists and finds them by a field of whole numbers, inserts documents under new ids, puts
values into a document and removes documents. In which order it keeps them is left open. -/
structure Server.Works {σ : Type} (server : Server σ) (name : String)
    (documents : σ → List Document) : Prop where
  ascending : ∀ field w, ∃ docs w', (server.ascending name field).run.run w = (.ok docs, w') ∧
    documents w' = documents w ∧ docs.Perm (documents w) ∧
    ((∀ d ∈ documents w, ∃ i, Fields.get? field d = some (.int i)) →
      docs.Pairwise fun d e => Document.isBelow field e d = false)
  highest : ∀ field w, ∃ top w', (server.highest? name field).run.run w = (.ok top, w') ∧
    documents w' = documents w ∧ (top = none → documents w = []) ∧
    ((∀ d ∈ documents w, ∃ i, Fields.get? field d = some (.int i)) →
      ∀ d ∈ top, d ∈ documents w ∧ ∀ e ∈ documents w, Document.isBelow field d e = false)
  insertAll : ∀ docs w all, Document.insertAll docs (documents w) = (all, none) →
    ∃ w', (server.insertAll name docs).run.run w = (.ok (), w') ∧ (documents w').Perm all
  setFields : ∀ id values w, ∃ w', (server.setFields name id values).run.run w = (.ok (), w') ∧
    (documents w').Perm (Document.setFields id values (documents w))
  removeAll : ∀ ids w, ∃ w', (server.removeAll name ids).run.run w = (.ok (), w') ∧
    (documents w').Perm (Document.removeAll ids (documents w))

namespace Documents

variable {σ α : Type} {server : Server σ} {name : String} {documents : σ → List Document}
  (now : Action σ Timestamp) (link : Nat)

lemma trying_ok {attempt : String} {x : Action σ α} {w w' : σ} {a : α}
    (h : x.run.run w = (.ok a, w')) : (trying attempt x).run.run w = (.ok a, w') := by
  rw [trying, ExceptT.run_tryCatch, StateT.run_bind, h]
  rfl

variable [Item α] {stored : List α} {w : σ}

/-- The position of a document of an item is a whole number. -/
lemma exists_position {docs : List Document} {placed : List (Int × α)}
    (hplace : docs.Perm (place placed)) :
    ∀ d ∈ docs, ∃ i, Fields.get? positionField d = some (.int i) := by
  intro d hd
  obtain ⟨p, -, rfl⟩ := List.mem_map.mp (hplace.subset hd)
  exact ⟨p.1, get?_positionField_ofItem _ _⟩

section Calls

variable (hserver : server.Works name documents)
include hserver

/-- The position of new items lies behind those of all others. -/
lemma position_run {placed : List (Int × α)} (hplace : (documents w).Perm (place placed)) :
    ∃ position w', (server.highest? name positionField >>= positionAfter).run.run w =
        (.ok (.whole position), w') ∧
      documents w' = documents w ∧ ∀ p ∈ placed, p.1 < position := by
  obtain ⟨top, w', hhighest, hkept, hnone, hmost⟩ := hserver.highest positionField w
  cases top with
  | none =>
    refine ⟨0, w', by rw [Action.run_bind_ok hhighest]; rfl, hkept, ?_⟩
    have hempty : placed = [] := by
      have hplaced := hplace.symm.length_eq
      rw [hnone rfl] at hplaced
      simpa [place] using hplaced
    simp [hempty]
  | some d =>
    obtain ⟨hd, hmax⟩ := hmost (exists_position hplace) d rfl
    obtain ⟨p, -, rfl⟩ := List.mem_map.mp (hplace.subset hd)
    refine ⟨p.1 + 1, w', ?_, hkept, fun q hq => ?_⟩
    · rw [Action.run_bind_ok hhighest, positionAfter, get?_positionField_ofItem]
      rfl
    · have hle := hmax _ (hplace.symm.subset (List.mem_map_of_mem hq))
      rw [isBelow_ofItem, decide_eq_false_iff_not, not_lt] at hle
      exact Int.lt_add_one_of_le hle

lemma add_run (h : Mirrors (documents w) stored) (items : List α)
    (hids : ((stored ++ items).map Item.id).Nodup) :
    ∃ w', ((collection server now name (some link)).add items).run.run w = (.ok items, w') ∧
      Mirrors (documents w') (stored ++ items) := by
  obtain ⟨placed, rfl, hascending, hplace⟩ := h
  cases items with
  | nil => exact ⟨w, rfl, placed, by simp, hascending, hplace⟩
  | cons item items =>
    obtain ⟨position, w₁, hposition, hkept, hbehind⟩ := position_run hserver hplace
    have hnew : Document.insertAll (ofItems (.whole position) (item :: items)) (documents w₁) =
        (documents w₁ ++ ofItems (.whole position) (item :: items), none) := by
      rw [ofItems_eq_place, hkept]
      refine insertAll_place hplace ?_
      rwa [List.map_append, map_snd_inRow]
    obtain ⟨w', hinsert, hdocs⟩ := hserver.insertAll _ w₁ _ hnew
    have hsteps : (server.highest? name positionField >>= positionAfter >>= fun position =>
        server.insertAll name (ofItems position (item :: items)) >>= fun _ =>
          pure (item :: items)).run.run w = (.ok (item :: items), w') := by
      rw [Action.run_bind_ok hposition, Action.run_bind_ok hinsert]
      rfl
    rw [bind_assoc] at hsteps
    exact ⟨w', trying_ok hsteps, .append hplace hascending hbehind _ (hkept ▸ hdocs)⟩

lemma remove_run (h : Mirrors (documents w) stored) (items : List α) :
    ∃ w', ((collection server now name (some link)).remove items).run.run w = (.ok (), w') ∧
      Mirrors (documents w') (Memory.remove items stored) := by
  cases items with
  | nil => exact ⟨w, rfl, by rwa [Memory.remove_nil]⟩
  | cons item items =>
    obtain ⟨w', hrun, hdocs⟩ := hserver.removeAll ((item :: items).map Item.id) w
    exact ⟨w', trying_ok hrun, (h.remove (item :: items)).of_perm hdocs⟩

variable [LawfulItem α]

lemma update_run (h : Mirrors (documents w) stored) (hids : (stored.map Item.id).Nodup)
    (items : List α) :
    ∃ w', ((collection server now name (some link)).update items).run.run w = (.ok (), w') ∧
      Mirrors (documents w') (Memory.update items stored) := by
  suffices hrun : ∃ w', (items.forM fun item =>
      server.setFields name (Item.id item) (contents item)).run.run w = (.ok (), w') ∧
      Mirrors (documents w') (Memory.update items stored) by
    obtain ⟨w', hrun, hmirrors⟩ := hrun
    exact ⟨w', trying_ok hrun, hmirrors⟩
  induction items generalizing stored w with
  | nil => exact ⟨w, rfl, by rwa [Memory.update_nil]⟩
  | cons item items ih =>
    obtain ⟨w₁, hfirst, hdocs⟩ := hserver.setFields (Item.id item) (contents item) w
    obtain ⟨w', hrest, hmirrors⟩ := ih ((h.update_one hids item).of_perm hdocs)
      (by rwa [Memory.map_id_update])
    refine ⟨w', ?_, by rwa [Memory.update_cons]⟩
    exact (Action.run_bind_ok hfirst).trans hrest

lemma list_run (hnow : ∀ w, ∃ t w', now.run.run w = (.ok t, w') ∧ documents w' = documents w)
    (h : Mirrors (documents w) stored) :
    ∃ w', (collection server now name (some link)).list.run.run w = (.ok stored, w') ∧
      Mirrors (documents w') stored := by
  obtain ⟨placed, rfl, hascending, hplace⟩ := h
  obtain ⟨docs, w₁, hlist, hkept, hperm, hsorted⟩ := hserver.ascending positionField w
  obtain ⟨t, w₂, hclock, hkept'⟩ := hnow w₁
  obtain rfl : docs = place placed :=
    eq_place (hperm.trans hplace) hascending (hsorted (exists_position hplace))
  have hitems : ((place placed).mapM (toItem t) : Action σ (List α)) =
      pure (placed.map (·.2)) := by
    rw [place, List.mapM_map, ← List.mapM_pure]
    simp only [Function.comp_def, toItem_ofItem]
  have hsteps : (server.ascending name positionField >>= fun docs => now >>= fun t =>
      docs.mapM (toItem t) : Action σ (List α)).run.run w = (.ok (placed.map (·.2)), w₂) := by
    rw [Action.run_bind_ok hlist, Action.run_bind_ok hclock, hitems]
    rfl
  exact ⟨w₂, trying_ok hsteps, placed, rfl, hascending, by rwa [hkept', hkept]⟩

end Calls

end Documents

/-! ## Runs of calls -/

/-- A call of a collection of items. -/
inductive CollectionCall (α : Type) where
  | list
  | add (items : List α)
  | update (items : List α)
  | remove (items : List α)

namespace CollectionCall

variable {σ α : Type}

/-- Listing and adding answer with items. -/
def run (store : CollectionStore σ α) : CollectionCall α → Action σ (Option (List α))
  | .list => some <$> store.list
  | .add items => some <$> store.add items
  | .update items => store.update items *> pure none
  | .remove items => store.remove items *> pure none

variable [Item α]

/-- The ids of items that are added. -/
def added : CollectionCall α → List String
  | .add items => items.map Item.id
  | _ => []

/-- The items after a call. -/
def apply (stored : List α) : CollectionCall α → List α
  | .list => stored
  | .add items => Memory.add items stored
  | .update items => Memory.update items stored
  | .remove items => Memory.remove items stored

def answer (stored : List α) : CollectionCall α → Option (List α)
  | .list => some stored
  | .add items => some items
  | _ => none

/-- The answers to some calls. -/
def answers (stored : List α) : List (CollectionCall α) → List (Option (List α))
  | [] => []
  | call :: calls => call.answer stored :: answers (call.apply stored) calls

/-- A call brings no other ids than those that are added. -/
lemma nodup_apply {stored : List α} {call : CollectionCall α} {later : List String}
    (h : (stored.map Item.id ++ (call.added ++ later)).Nodup) :
    ((call.apply stored).map Item.id ++ later).Nodup := by
  cases call with
  | list => exact h
  | add items => simpa [apply, added, Memory.add] using h
  | update items =>
    rw [apply, Memory.map_id_update]
    exact h
  | remove items =>
    exact h.sublist ((List.filter_sublist.map _).append_right _)

/-! ### In memory -/

lemma memory_run {shelf : Memory.Shelf σ (List α)}
    (hshelf : ∀ items w, shelf.value (shelf.put items w) = items) (call : CollectionCall α)
    (w : σ) :
    ∃ w', (call.run (Memory.collection shelf)).run.run w =
        (.ok (call.answer (shelf.value w)), w') ∧ shelf.value w' = call.apply (shelf.value w) := by
  cases call with
  | list => exact ⟨w, rfl, rfl⟩
  | add items | update items | remove items => exact ⟨_, rfl, hshelf _ _⟩

lemma memory_mapM {shelf : Memory.Shelf σ (List α)}
    (hshelf : ∀ items w, shelf.value (shelf.put items w) = items) (calls : List (CollectionCall α))
    (w : σ) : ∃ w', (calls.mapM (run (Memory.collection shelf))).run.run w =
      (.ok (answers (shelf.value w) calls), w') := by
  induction calls generalizing w with
  | nil => exact ⟨w, rfl⟩
  | cons call calls ih =>
    obtain ⟨w₁, hfirst, hvalue⟩ := memory_run hshelf call w
    obtain ⟨w', hrest⟩ := ih w₁
    rw [hvalue] at hrest
    refine ⟨w', ?_⟩
    rw [List.mapM_cons, Action.run_bind_ok hfirst, Action.run_bind_ok hrest]
    rfl

/-! ### On a server -/

variable [LawfulItem α] {server : Server σ} {name : String} {documents : σ → List Document}
  {now : Action σ Timestamp} (hserver : server.Works name documents)
  (hnow : ∀ w, ∃ t w', now.run.run w = (.ok t, w') ∧ documents w' = documents w) (link : Nat)
include hserver hnow

lemma documents_run {stored : List α} {w : σ} (h : Documents.Mirrors (documents w) stored)
    (call : CollectionCall α) (hids : (stored.map Item.id ++ call.added).Nodup) :
    ∃ w', (call.run (Documents.collection server now name (some link))).run.run w =
        (.ok (call.answer stored), w') ∧ Documents.Mirrors (documents w') (call.apply stored) := by
  cases call with
  | list =>
    obtain ⟨w', hrun, hmirrors⟩ := Documents.list_run now link hserver hnow h
    exact ⟨w', Action.run_bind_ok hrun, hmirrors⟩
  | add items =>
    obtain ⟨w', hrun, hmirrors⟩ := Documents.add_run now link hserver h items
      (by rwa [List.map_append])
    exact ⟨w', Action.run_bind_ok hrun, hmirrors⟩
  | update items =>
    obtain ⟨w', hrun, hmirrors⟩ := Documents.update_run now link hserver h
      (List.nodup_append.mp hids).1 items
    exact ⟨w', Action.run_bind_ok hrun, hmirrors⟩
  | remove items =>
    obtain ⟨w', hrun, hmirrors⟩ := Documents.remove_run now link hserver h items
    exact ⟨w', Action.run_bind_ok hrun, hmirrors⟩

lemma documents_mapM {stored : List α} {w : σ} (h : Documents.Mirrors (documents w) stored)
    (calls : List (CollectionCall α)) (hids : (stored.map Item.id ++ calls.flatMap added).Nodup) :
    ∃ w', (calls.mapM (run (Documents.collection server now name (some link)))).run.run w =
      (.ok (answers stored calls), w') := by
  induction calls generalizing stored w with
  | nil => exact ⟨w, rfl⟩
  | cons call calls ih =>
    rw [List.flatMap_cons] at hids
    have hfirst : (stored.map Item.id ++ call.added).Nodup := by
      rw [← List.append_assoc] at hids
      exact (List.nodup_append.mp hids).1
    obtain ⟨w₁, hrun, hmirrors⟩ := documents_run hserver hnow link h call hfirst
    obtain ⟨w', hrest⟩ := ih hmirrors (nodup_apply hids)
    refine ⟨w', ?_⟩
    rw [List.mapM_cons, Action.run_bind_ok hrun, Action.run_bind_ok hrest]
    rfl

end CollectionCall

/-- The items of a kind. -/
def ItemKind.Model : ItemKind → Type
  | .pin => Pin
  | .group => Group
  | .tag => Tag

instance (k : ItemKind) : Item k.Model :=
  match k with
  | .pin => inferInstanceAs (Item Pin)
  | .group => inferInstanceAs (Item Group)
  | .tag => inferInstanceAs (Item Tag)

instance (k : ItemKind) : LawfulItem k.Model :=
  match k with
  | .pin => inferInstanceAs (LawfulItem Pin)
  | .group => inferInstanceAs (LawfulItem Group)
  | .tag => inferInstanceAs (LawfulItem Tag)

/-- Whatever the items are, a collection on a server that works and one in memory, both without
items at first, give the same answers to the same calls: every list is the same, item for item, and
no call fails. Ids that are added must not have been added before; updates and removals may name any
ids. -/
theorem collections_agree (k : ItemKind) {σ τ : Type} {server : Server σ} {name : String}
    {documents : σ → List Document} (hserver : server.Works name documents)
    {now : Action σ Timestamp}
    (hnow : ∀ w, ∃ t w', now.run.run w = (.ok t, w') ∧ documents w' = documents w) (link : Nat)
    {shelf : Memory.Shelf τ (List k.Model)}
    (hshelf : ∀ items w, shelf.value (shelf.put items w) = items)
    (calls : List (CollectionCall k.Model)) (hnew : (calls.flatMap CollectionCall.added).Nodup)
    {w : σ} (hw : documents w = []) {m : τ} (hm : shelf.value m = []) :
    ∃ answers w' m',
      (calls.mapM (CollectionCall.run (Documents.collection server now name (some link)))).run.run w
        = (.ok answers, w') ∧
      (calls.mapM (CollectionCall.run (Memory.collection shelf))).run.run m
        = (.ok answers, m') := by
  have hempty : Documents.Mirrors (documents w) ([] : List k.Model) := by
    rw [hw]
    exact Documents.mirrors_nil
  obtain ⟨w', hserved⟩ := CollectionCall.documents_mapM hserver hnow link hempty calls
    (by simpa using hnew)
  obtain ⟨m', hremembered⟩ := CollectionCall.memory_mapM hshelf calls m
  rw [hm] at hremembered
  exact ⟨_, w', m', hserved, hremembered⟩

/-! ## A server with one collection -/

namespace Document

/-- The whole number under a field, if it is one. -/
def wholeAt (field : String) (d : Document) : Int :=
  match Fields.get? field d with
  | some (.int i) => i
  | _ => 0

lemma isBelow_eq {field : String} {d e : Document} (hd : ∃ i, Fields.get? field d = some (.int i))
    (he : ∃ i, Fields.get? field e = some (.int i)) :
    isBelow field d e = decide (wholeAt field d < wholeAt field e) := by
  obtain ⟨i, hi⟩ := hd
  obtain ⟨j, hj⟩ := he
  simp [isBelow, rank, wholeAt, hi, hj, Json.numeric?, Number.Numeric.below]

lemma highest?_eq_none {field : String} {docs : List Document} (h : highest? field docs = none) :
    docs = [] := by
  cases docs with
  | nil => rfl
  | cons d rest =>
    rw [highest?] at h
    split at h
    · cases h
    · split at h <;> cases h

variable {field : String} {docs : List Document}
  (hdocs : ∀ d ∈ docs, ∃ i, Fields.get? field d = some (.int i))
include hdocs

lemma pairwise_ascending :
    (ascending field docs).Pairwise fun d e => isBelow field e d = false := by
  have hmap : (ascending field docs).map (wholeAt field) =
      (docs.map (wholeAt field)).mergeSort fun i j => decide (i ≤ j) :=
    List.map_mergeSort fun d hd e he => by
      rw [isBelow_eq (hdocs e he) (hdocs d hd), ← decide_not]
      exact decide_eq_decide.mpr not_lt
  have hsorted : ((docs.map (wholeAt field)).mergeSort fun i j => decide (i ≤ j)).Pairwise
      fun i j => decide (i ≤ j) = true :=
    List.pairwise_mergeSort (fun a b c hab hbc => by simp_all; omega)
      (fun a b => by simp [Int.le_total]) _
  rw [← hmap, List.pairwise_map] at hsorted
  refine hsorted.imp_of_mem fun {d e} hd he hle => ?_
  have hmem : ∀ d ∈ ascending field docs, d ∈ docs := fun d hd =>
    (List.mergeSort_perm docs _).subset hd
  rw [isBelow_eq (hdocs e (hmem e he)) (hdocs d (hmem d hd))]
  simpa using hle

lemma highest?_spec {d : Document} (h : highest? field docs = some d) :
    d ∈ docs ∧ ∀ e ∈ docs, isBelow field d e = false := by
  induction docs generalizing d with
  | nil => cases h
  | cons c rest ih =>
    have hc := hdocs c List.mem_cons_self
    have hrest : ∀ e ∈ rest, ∃ i, Fields.get? field e = some (.int i) := fun e he =>
      hdocs e (List.mem_cons_of_mem _ he)
    have hself : isBelow field c c = false := by simp [isBelow_eq hc hc]
    rw [highest?] at h
    cases htop : highest? field rest with
    | none =>
      simp only [htop, Option.some.injEq] at h
      subst h
      have hempty : rest = [] := highest?_eq_none htop
      simp [hempty, hself]
    | some e =>
      obtain ⟨he, hmost⟩ := ih hrest htop
      have hle : ∀ e' ∈ rest, wholeAt field e' ≤ wholeAt field e := fun e' he' => by
        simpa [isBelow_eq (hrest e he) (hrest e' he')] using hmost e' he'
      simp only [htop, isBelow_eq hc (hrest e he), decide_eq_true_iff] at h
      split_ifs at h with hbelow
      · obtain rfl := Option.some.inj h
        refine ⟨List.mem_cons_of_mem _ he, fun e' he' => ?_⟩
        rcases List.mem_cons.mp he' with rfl | he'
        · simp [isBelow_eq (hrest e he) hc, hbelow.le]
        · exact hmost e' he'
      · obtain rfl := Option.some.inj h
        refine ⟨List.mem_cons_self, fun e' he' => ?_⟩
        rcases List.mem_cons.mp he' with rfl | he'
        · exact hself
        · have hfar := (hle e' he').trans (not_lt.mp hbelow)
          simp [isBelow_eq hc (hrest e' he'), hfar]

/-- A server that holds one collection and nothing else. -/
def listServer : Server (List Document) where
  connect _ := pure 0
  selectDatabase _ _ := pure ()
  ping _ := pure ()
  close _ := pure ()
  ensure _ := pure ()
  createIndex _ _ := pure ()
  ascending _ field := return Document.ascending field (← get)
  highest? _ field := return Document.highest? field (← get)
  find? _ id := return Document.find? id (← get)
  insertAll _ new := fun docs =>
    match Document.insertAll new docs with
    | (all, none) => (.ok (), all)
    | (all, some id) => (.error (.database id), all)
  setFields _ id values := modify (Document.setFields id values)
  removeAll _ ids := modify (Document.removeAll ids)
  replace _ id d := modify (Document.replace id d)
  removeFirst _ id := modify (Document.removeFirst id)

omit hdocs in
lemma listServer_works (name : String) : listServer.Works name fun docs => docs where
  ascending field w := ⟨_, w, rfl, rfl, List.mergeSort_perm _ _, pairwise_ascending⟩
  highest field w := ⟨_, w, rfl, rfl, highest?_eq_none, fun hdocs _ hd => highest?_spec hdocs hd⟩
  insertAll docs w all h := by
    have hrun : (listServer.insertAll name docs).run.run w =
        match Document.insertAll docs w with
        | (all, none) => (.ok (), all)
        | (all, some id) => (.error (.database id), all) := rfl
    exact ⟨all, by rw [hrun, h], .rfl⟩
  setFields id values w := ⟨_, rfl, .rfl⟩
  removeAll ids w := ⟨_, rfl, .rfl⟩

end Document

/-! ### Tags on a server and in memory -/

/-- A tag of the first day of 2030. -/
def sampleTag (id name : String) : Tag :=
  ⟨id, name, ⟨⟨2030, 1, 1, by decide⟩, .midnight, none⟩, .tag, "PrimaryText"⟩

/-- Two tags are added, the second and an unknown one are updated, the second twice. The first is
removed, and another one is added. -/
def sampleCalls : List (CollectionCall Tag) :=
  [.add [sampleTag "a" "Work", sampleTag "b" "Home"],
    .update [sampleTag "b" "Den", sampleTag "x" "None", sampleTag "b" "House"], .list,
    .remove [sampleTag "a" "Work", sampleTag "a" "Work"], .add [sampleTag "c" "Play"], .list]

theorem collections_agree_tags :
    ∃ w', (sampleCalls.mapM (CollectionCall.run
        (Documents.collection Document.listServer (pure (sampleTag "" "").created) "tags"
          (some 1)))).run.run [] =
      (.ok [some [sampleTag "a" "Work", sampleTag "b" "Home"], none,
        some [sampleTag "a" "Work", sampleTag "b" "House"], none, some [sampleTag "c" "Play"],
        some [sampleTag "b" "House", sampleTag "c" "Play"]], w') := by
  let shelf : Memory.Shelf (List Tag) (List Tag) := ⟨id, fun items _ => items⟩
  have hshelf : ∀ items w, shelf.value (shelf.put items w) = items := fun _ _ => rfl
  have hnow : ∀ w : List Document, ∃ t w',
      (pure (sampleTag "" "").created : Action (List Document) Timestamp).run.run w = (.ok t, w') ∧
        w' = w := fun w => ⟨_, w, rfl, rfl⟩
  obtain ⟨answers, w', m', hserved, hremembered⟩ := collections_agree .tag
    (Document.listServer_works "tags") hnow 1 hshelf sampleCalls (by decide) (w := []) rfl (m := [])
    rfl
  obtain ⟨m'', hanswers⟩ := CollectionCall.memory_mapM hshelf sampleCalls ([] : List Tag)
  obtain rfl := Except.ok.inj (Prod.mk.inj (hremembered.symm.trans hanswers)).1
  have hall : CollectionCall.answers [] sampleCalls =
      [some [sampleTag "a" "Work", sampleTag "b" "Home"], none,
        some [sampleTag "a" "Work", sampleTag "b" "House"], none, some [sampleTag "c" "Play"],
        some [sampleTag "b" "House", sampleTag "c" "Play"]] := by decide
  rw [← hall]
  exact ⟨w', hserved⟩

end Pinboard
