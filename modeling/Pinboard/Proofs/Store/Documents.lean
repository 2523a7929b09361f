import Pinboard.Proofs.Fields
import Pinboard.Proofs.Item.Data
import Pinboard.Proofs.Json.RoundTrip
import Pinboard.Proofs.Schedule.Records
import Pinboard.Store.Memory

/-!
# Documents that mirror items

A collection of documents mirrors a list of items if it holds one document for each, at positions
that ascend along the list. Gaps between positions and the order of the documents do not matter. The
calls of a store made of documents keep the mirror of what the store in memory does.
-/
namespace Pinboard

open Time

/-! ## Fields in order -/

namespace Fields

variable {α : Type}

lemma keys_erase (key : String) (fields : Fields α) :
    (fields.erase key).keys = fields.keys.filter fun k => decide (k ≠ key) := by
  induction fields with
  | nil => rfl
  | cons f fields ih =>
    by_cases hf : f.1 = key
    · rw [erase, if_pos hf, ih]
      simp [keys, hf]
    · rw [erase, if_neg hf]
      simpa [keys, hf] using ih

lemma merge_cons_of_notMem {key : String} {new : Fields α} (h : key ∉ new.keys) (value : α)
    (rest : Fields α) : Fields.merge ((key, value) :: rest) new =
      (key, value) :: Fields.merge rest new := by
  induction new generalizing rest with
  | nil => rfl
  | cons f new ih =>
    obtain ⟨k, v⟩ := f
    obtain ⟨hne, hnew⟩ : key ≠ k ∧ key ∉ keys new := by simpa [keys] using h
    calc Fields.merge ((key, value) :: rest) ((k, v) :: new)
        = Fields.merge (Fields.set k v ((key, value) :: rest)) new := rfl
      _ = Fields.merge ((key, value) :: rest.set k v) new := by rw [set, if_neg hne]
      _ = (key, value) :: Fields.merge (rest.set k v) new := ih hnew _

/-- Values for the same keys go in their places. -/
lemma merge_of_keys {old new : Fields α} (hkeys : old.keys = new.keys) (hnodup : new.keys.Nodup)
    (rest : Fields α) : Fields.merge (old ++ rest) new = new ++ rest := by
  induction new generalizing old with
  | nil =>
    obtain rfl : old = [] := List.map_eq_nil_iff.mp hkeys
    rfl
  | cons f new ih =>
    obtain ⟨k, v⟩ := f
    obtain ⟨⟨k', u⟩, old, rfl, rfl, hothers⟩ := List.map_eq_cons_iff.mp hkeys
    obtain ⟨hk, hnew⟩ := List.nodup_cons.mp hnodup
    calc Fields.merge ((k', u) :: old ++ rest) ((k', v) :: new)
        = Fields.merge (Fields.set k' v ((k', u) :: (old ++ rest))) new := rfl
      _ = Fields.merge ((k', v) :: (old ++ rest)) new := by rw [set, if_pos rfl]
      _ = (k', v) :: Fields.merge (old ++ rest) new := merge_cons_of_notMem hk v _
      _ = (k', v) :: new ++ rest := by rw [ih hothers hnew, List.cons_append]

end Fields

/-! ## Documents of items -/

namespace Documents

open Document

variable {α : Type} [Item α]

@[simp] lemma get?_idField_ofItem (position : Number.Numeric) (item : α) :
    Fields.get? idField (ofItem position item) = some (.str (Item.id item)) := by
  rw [ofItem, Fields.get?_set, if_neg (by decide), Fields.get?_set, if_pos rfl]

@[simp] lemma get?_positionField_ofItem (position : Number.Numeric) (item : α) :
    Fields.get? positionField (ofItem position item) = some (.ofNumeric position) := by
  rw [ofItem, Fields.get?_set, if_pos rfl]

@[simp] lemma isKnownAs_ofItem (id : String) (position : Number.Numeric) (item : α) :
    isKnownAs id (ofItem position item) = (Item.id item == id) := by
  rw [isKnownAs, get?_idField_ofItem]

lemma same_id_ofItem (p q : Number.Numeric) (a b : α) :
    (Document.id (ofItem p a)).same (Document.id (ofItem q b)) = (Item.id a == Item.id b) := by
  simp [Document.id, Json.same]

@[simp] lemma isBelow_ofItem (p q : Int) (a b : α) :
    isBelow positionField (ofItem (.whole p) a) (ofItem (.whole q) b) = decide (p < q) := by
  simp [isBelow, rank, Json.ofNumeric, Json.numeric?, Number.Numeric.below]

/-! ## Mirrors -/

/-- The documents of items at their positions. -/
def place (placed : List (Int × α)) : List Document :=
  placed.map fun p => ofItem (.whole p.1) p.2

/-- Documents that hold items in a row, at ascending positions. -/
def Mirrors (docs : List Document) (items : List α) : Prop :=
  ∃ placed : List (Int × α), placed.map (·.2) = items ∧
    placed.Pairwise (fun p q => p.1 < q.1) ∧ docs.Perm (place placed)

lemma mirrors_nil : Mirrors [] ([] : List α) := ⟨[], rfl, .nil, .nil⟩

lemma Mirrors.of_perm {docs docs' : List Document} {items : List α} (h : Mirrors docs items)
    (hperm : docs'.Perm docs) : Mirrors docs' items := by
  obtain ⟨placed, hitems, hascending, hplace⟩ := h
  exact ⟨placed, hitems, hascending, hperm.trans hplace⟩

/-- In ascending order of the positions, there is only one way to list the documents. -/
lemma eq_place {docs : List Document} {placed : List (Int × α)}
    (hplace : docs.Perm (place placed)) (hascending : placed.Pairwise fun p q => p.1 < q.1)
    (hsorted : docs.Pairwise fun d e => isBelow positionField e d = false) :
    docs = place placed := by
  have hplaced : (place placed).Pairwise fun d e => isBelow positionField e d = false :=
    List.pairwise_map.mpr (hascending.imp fun hlt => by simp [hlt.le])
  refine hplace.eq_of_pairwise (fun d e hd he hde hed => ?_) hsorted hplaced
  obtain ⟨p, hp, rfl⟩ := List.mem_map.mp (hplace.subset hd)
  obtain ⟨q, hq, rfl⟩ := List.mem_map.mp he
  have hsame : p.1 = q.1 := by
    simp only [isBelow_ofItem, decide_eq_false_iff_not, not_lt] at hde hed
    exact le_antisymm hde hed
  have hdistinct : (placed.map (·.1)).Nodup :=
    List.pairwise_map.mpr (hascending.imp fun hlt => hlt.ne)
  rw [List.inj_on_of_nodup_map hdistinct hp hq hsame]

/-- Items at positions in a row. -/
def inRow (position : Int) : List α → List (Int × α)
  | [] => []
  | item :: items => (position, item) :: inRow (position + 1) items

omit [Item α] in
@[simp] lemma map_snd_inRow (position : Int) (items : List α) :
    (inRow position items).map (·.2) = items := by
  induction items generalizing position with
  | nil => rfl
  | cons item items ih => simp [inRow, ih]

omit [Item α] in
lemma le_of_mem_inRow {position : Int} {items : List α} {q : Int × α}
    (hq : q ∈ inRow position items) : position ≤ q.1 := by
  induction items generalizing position with
  | nil => cases hq
  | cons item items ih =>
    rcases List.mem_cons.mp hq with rfl | hq
    · exact le_rfl
    · exact (Int.le_of_lt (Int.lt_succ position)).trans (ih hq)

omit [Item α] in
lemma pairwise_inRow (position : Int) (items : List α) :
    (inRow position items).Pairwise fun p q => p.1 < q.1 := by
  induction items generalizing position with
  | nil => exact .nil
  | cons item items ih =>
    exact .cons (fun q hq => (Int.lt_succ position).trans_le (le_of_mem_inRow hq)) (ih _)

lemma ofItems_eq_place (position : Int) (items : List α) :
    ofItems (.whole position) items = place (inRow position items) := by
  -- the offsets count from where the rest of the list begins
  suffices h : ∀ start : Nat, ((items.zipIdx start).map fun p =>
      ofItem ((Number.Numeric.whole position).plus p.2) p.1) =
      place (inRow (position + start) items) by
    have hrow := h 0
    rw [Nat.cast_zero, add_zero] at hrow
    exact hrow
  induction items with
  | nil => exact fun _ => rfl
  | cons item items ih =>
    intro start
    rw [List.zipIdx_cons, List.map_cons, ih, inRow, place, place, List.map_cons]
    simp [Number.Numeric.plus, add_assoc]

/-- New items in a row behind all others go to the end. -/
lemma Mirrors.append {docs docs' : List Document} {placed : List (Int × α)} {position : Int}
    (hplace : docs.Perm (place placed)) (hascending : placed.Pairwise fun p q => p.1 < q.1)
    (hposition : ∀ p ∈ placed, p.1 < position) (items : List α)
    (hdocs : docs'.Perm (docs ++ ofItems (.whole position) items)) :
    Mirrors docs' (placed.map (·.2) ++ items) := by
  refine ⟨placed ++ inRow position items, by simp, List.pairwise_append.mpr
    ⟨hascending, pairwise_inRow _ _, fun p hp q hq =>
      (hposition p hp).trans_le (le_of_mem_inRow hq)⟩, ?_⟩
  rw [place, List.map_append]
  exact hdocs.trans (ofItems_eq_place position items ▸ hplace.append_right _)

lemma insertAll_of_distinct {new docs : List Document}
    (hother : ∀ d ∈ new, ∀ e ∈ docs, e.id.same d.id = false)
    (hdistinct : new.Pairwise fun d e => d.id.same e.id = false) :
    insertAll new docs = (docs ++ new, none) := by
  induction new generalizing docs with
  | nil => simp [insertAll]
  | cons d new ih =>
    obtain ⟨hfirst, hrest⟩ := List.pairwise_cons.mp hdistinct
    have hnone : clashes d docs = false := by
      simpa [clashes] using hother d List.mem_cons_self
    rw [insertAll, hnone, if_neg Bool.false_ne_true, ih (fun d' hd' e he => ?_) hrest]
    · simp
    · rcases List.mem_append.mp he with he | he
      · exact hother d' (List.mem_cons_of_mem _ hd') e he
      · obtain rfl := List.mem_singleton.mp he
        exact hfirst d' hd'

/-- Documents of items with other ids can be inserted. -/
lemma insertAll_place {docs : List Document} {placed new : List (Int × α)}
    (hplace : docs.Perm (place placed))
    (hids : (((placed ++ new).map (·.2)).map Item.id).Nodup) :
    insertAll (place new) docs = (docs ++ place new, none) := by
  rw [List.map_map, List.map_append, List.nodup_append] at hids
  obtain ⟨-, hnew, hother⟩ := hids
  refine insertAll_of_distinct (fun d hd e he => ?_) ?_
  · obtain ⟨q, hq, rfl⟩ := List.mem_map.mp hd
    obtain ⟨p, hp, rfl⟩ := List.mem_map.mp (hplace.subset he)
    rw [same_id_ofItem, beq_eq_false_iff_ne]
    exact hother _ (List.mem_map_of_mem hp) _ (List.mem_map_of_mem hq)
  · refine List.pairwise_map.mpr ((List.pairwise_map.mp hnew).imp fun hne => ?_)
    rwa [same_id_ofItem, beq_eq_false_iff_ne]

/-! ## Items of documents -/

variable [LawfulItem α]

lemma keys_contents (item : α) :
    (contents item).keys = (LawfulItem.names α).filter fun k => decide (k ≠ "id") := by
  rw [contents, Fields.keys_erase, LawfulItem.keys_fields]

lemma idField_notMem_contents (item : α) : idField ∉ (contents item).keys := by
  rw [keys_contents]
  exact fun h => LawfulItem.unreserved.1 (List.mem_of_mem_filter h)

lemma positionField_notMem_contents (item : α) : positionField ∉ (contents item).keys := by
  rw [keys_contents]
  exact fun h => LawfulItem.unreserved.2 (List.mem_of_mem_filter h)

/-- The fields of an item, then its id and its position. -/
lemma ofItem_eq (position : Number.Numeric) (item : α) : ofItem position item =
    contents item ++ [(idField, .str (Item.id item)), (positionField, .ofNumeric position)] := by
  have hkeys : positionField ∉
      Fields.keys (contents item ++ [(idField, .str (Item.id item))]) := by
    have hother : positionField ≠ idField := by decide
    simpa [Fields.keys, hother] using positionField_notMem_contents item
  rw [ofItem, Fields.set_of_notMem (idField_notMem_contents item), Fields.set_of_notMem hkeys,
    List.append_assoc]
  rfl

/-- A document takes the contents of an item with its id and keeps its position. -/
lemma merge_contents (position : Number.Numeric) {old new : α} (hid : Item.id old = Item.id new) :
    Fields.merge (ofItem position old) (contents new) = ofItem position new := by
  have hkeys : (contents old).keys = (contents new).keys := by
    rw [keys_contents, keys_contents]
  have hnodup : (contents new).keys.Nodup := by
    rw [keys_contents]
    exact LawfulItem.nodup_names.filter _
  rw [ofItem_eq, Fields.merge_of_keys hkeys hnodup, ofItem_eq, hid]

/-- The document of an item gives the item back, wherever it stands. -/
lemma toItem_ofItem {σ : Type} (now : Timestamp) (position : Number.Numeric) (item : α) :
    (toItem now (ofItem position item) : Action σ α) = pure item := by
  have hread : Item.read ⟨"", now⟩ (.obj ((Fields.erase positionField
      (Fields.erase idField (ofItem position item))).set "id" (.str (Item.id item)))) =
      .ok item := by
    refine LawfulItem.read_fields _ item _ fun f hf => ?_
    have hname : f.1 ∈ LawfulItem.names α := by
      rw [← LawfulItem.keys_fields item]
      exact List.mem_map_of_mem hf
    have hfield := Fields.get?_of_mem (LawfulItem.keys_fields item ▸ LawfulItem.nodup_names) hf
    rw [Fields.get?_set]
    split_ifs with hid
    · rw [← hid, LawfulItem.get?_id] at hfield
      exact hfield
    · have hposition : positionField ≠ f.1 := fun h => LawfulItem.unreserved.2 (h ▸ hname)
      have hidField : idField ≠ f.1 := fun h => LawfulItem.unreserved.1 (h ▸ hname)
      rw [Fields.get?_erase, if_neg hposition, Fields.get?_erase, if_neg hidField, ofItem,
        Fields.get?_set, if_neg hposition, Fields.get?_set, if_neg hidField, contents,
        Fields.get?_erase, if_neg hid, hfield]
  rw [toItem, get?_idField_ofItem]
  simp only [hread]
  rfl

/-! ## Changes -/

omit [LawfulItem α] in
lemma Mirrors.remove {docs : List Document} {stored : List α} (h : Mirrors docs stored)
    (items : List α) :
    Mirrors (removeAll (items.map Item.id) docs) (Memory.remove items stored) := by
  obtain ⟨placed, rfl, hascending, hplace⟩ := h
  refine ⟨placed.filter fun p => !(items.any fun item => Item.id item == Item.id p.2), ?_,
    hascending.filter _, ?_⟩
  · rw [Memory.remove, List.filter_map]
    rfl
  · refine (hplace.filter _).trans (List.Perm.of_eq ?_)
    rw [place, place, List.filter_map]
    congr 2
    funext p
    simp [Function.comp_def, BEq.comm (a := Item.id p.2)]

/-- A change of the first document under an id is one of the only document under it. -/
lemma changeFirst_eq_map {id : String} {f : Document → Document} {docs : List Document}
    (h : docs.Pairwise fun d e => isKnownAs id d = true → isKnownAs id e = false) :
    changeFirst id f docs = docs.map fun d => if isKnownAs id d then f d else d := by
  induction h with
  | nil => rfl
  | @cons d docs hd _ ih =>
    rw [changeFirst]
    split_ifs with hknown
    · have hrest : docs.map (fun e => if isKnownAs id e then f e else e) = docs :=
        (List.map_congr_left fun e he => by rw [hd e he hknown, if_neg Bool.false_ne_true]).trans
          (List.map_id' docs)
      simp [hknown, hrest]
    · simp [hknown, ih]

/-- An update of one item. -/
lemma Mirrors.update_one {docs : List Document} {stored : List α} (h : Mirrors docs stored)
    (hids : (stored.map Item.id).Nodup) (item : α) :
    Mirrors (setFields (Item.id item) (contents item) docs) (Memory.update [item] stored) := by
  obtain ⟨placed, rfl, hascending, hplace⟩ := h
  have honly : docs.Pairwise fun d e =>
      isKnownAs (Item.id item) d = true → isKnownAs (Item.id item) e = false := by
    have hsymm : ∀ {d e : Document},
        (isKnownAs (Item.id item) d = true → isKnownAs (Item.id item) e = false) →
        isKnownAs (Item.id item) e = true → isKnownAs (Item.id item) d = false := by
      intro d e h he
      by_contra hd
      rw [h (by simpa using hd)] at he
      cases he
    refine (hplace.pairwise_iff hsymm).mpr (List.pairwise_map.mpr ?_)
    refine (List.pairwise_map.mp (List.pairwise_map.mp hids)).imp fun hne => ?_
    simp only [isKnownAs_ofItem, beq_iff_eq, beq_eq_false_iff_ne]
    exact fun hp hq => hne (hp.trans hq.symm)
  refine ⟨placed.map fun p => (p.1, if Item.id p.2 == Item.id item then item else p.2), ?_,
    List.pairwise_map.mpr hascending, ?_⟩
  · rw [List.map_map, Memory.update, List.map_map]
    refine List.map_congr_left fun p _ => ?_
    by_cases hp : Item.id p.2 = Item.id item
    · simp [Memory.latest?, hp]
    · simp [Memory.latest?, hp, Ne.symm hp]
  · rw [setFields, changeFirst_eq_map honly]
    refine (hplace.map _).trans (List.Perm.of_eq ?_)
    rw [place, place, List.map_map, List.map_map]
    refine List.map_congr_left fun p _ => ?_
    by_cases hp : Item.id p.2 = Item.id item
    · simp [hp, merge_contents _ hp]
    · simp [hp]

end Documents

end Pinboard
