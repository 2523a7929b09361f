import Pinboard.Item.Group
import Pinboard.Item.Pin
import Pinboard.Proofs.Time.Stored
import Pinboard.Store.Documents

/-!
# Items as data

The data of an item has the same fields for all items of a kind, and an item is read back from any
data in which these fields are found, whatever else is there and whatever the order.
-/
namespace Pinboard

open Record Time

/-! ## Fields that are read back -/

namespace Record

variable {α : Type} {name : String} {check : Reader α} {data : Fields Json} {v : Json} {a : α}

lemma defaulted_of_get? (default : α) (hdata : data.get? name = some v) (hread : check v = .ok a) :
    defaulted name default check data = .ok a := by
  rw [defaulted, hdata]
  simp only [hread]
  rfl

lemma required_of_get? (hdata : data.get? name = some v) (hread : check v = .ok a) :
    required name check data = .ok a := by
  rw [required, hdata]
  simp only [hread]
  rfl

@[simp] lemma text_str (s : String) : text (.str s) = .ok s := rfl

@[simp] lemma truth_bool (b : Bool) : truth (.bool b) = .ok b := rfl

@[simp] lemma whole_int (i : Int) : whole (.int i) = .ok i := rfl

@[simp] lemma nullable_moment (t : Option Timestamp) :
    nullable moment (Json.ofOption Timestamp.toJson t) = .ok t := by
  cases t with
  | none => rfl
  | some t =>
    have hsome : nullable moment t.toJson = (moment t.toJson).map some := rfl
    rw [Json.ofOption, hsome, moment_toJson]
    rfl

@[simp] lemma nullable_text (s : Option String) :
    nullable text (Json.ofOption .str s) = .ok s := by
  cases s <;> rfl

lemma eachFrom_text (index : Nat) (items : List String) :
    Checked.eachFrom text index (items.map .str) = .ok items := by
  induction items generalizing index with
  | nil => rfl
  | cons s items ih =>
    rw [List.map_cons, Checked.eachFrom, ih]
    rfl

@[simp] lemma listOf_text (items : List String) :
    listOf text (Json.ofStrings items) = .ok items := eachFrom_text 0 items

end Record

/-! ## Items that are read back -/

/-- Items of a kind as data. -/
class LawfulItem (α : Type) [Item α] where
  /-- The names of the fields. -/
  names : List String
  keys_fields : ∀ item : α, (Item.fields item).keys = names
  nodup_names : names.Nodup
  /-- Documents have two more fields. -/
  unreserved : Document.idField ∉ names ∧ Documents.positionField ∉ names
  get?_id : ∀ item : α, (Item.fields item).get? "id" = some (.str (Item.id item))
  /-- An item is read from its fields among others. -/
  read_fields : ∀ (fresh : Fresh) (item : α) (data : Fields Json),
    (∀ f ∈ Item.fields item, data.get? f.1 = some f.2) → Item.read fresh (.obj data) = .ok item

instance : LawfulItem Tag where
  names := ["id", "name", "date_created", "item_type", "color"]
  keys_fields _ := rfl
  nodup_names := by decide
  unreserved := by decide
  get?_id _ := rfl
  read_fields fresh t data h := by
    simp only [Item.fields, Tag.fields, List.forall_mem_cons] at h
    obtain ⟨hid, hname, hcreated, hkind, hcolor, -⟩ := h
    simp only [Item.read, Tag.read, recordOf, required_of_get? hname (text_str _),
      defaulted_of_get? _ hid (text_str _), defaulted_of_get? _ hcreated (moment_toJson _),
      defaulted_of_get? _ hkind (ItemKind.read_name _), defaulted_of_get? _ hcolor (text_str _)]
    rfl

instance : LawfulItem Group where
  names := ["id", "name", "date_created", "item_type", "icon", "parent", "sort_strategy",
    "visibility", "tags"]
  keys_fields _ := rfl
  nodup_names := by decide
  unreserved := by decide
  get?_id _ := rfl
  read_fields fresh g data h := by
    simp only [Item.fields, Group.fields, List.forall_mem_cons] at h
    obtain ⟨hid, hname, hcreated, hkind, hicon, hparent, hsort, hvisibility, htags, -⟩ := h
    simp only [Item.read, Group.read, recordOf, defaulted_of_get? _ hid (text_str _),
      defaulted_of_get? _ hname (text_str _), defaulted_of_get? _ hcreated (moment_toJson _),
      defaulted_of_get? _ hkind (ItemKind.read_name _), defaulted_of_get? _ hicon (text_str _),
      defaulted_of_get? _ hparent (nullable_text _), defaulted_of_get? _ hsort (text_str _),
      defaulted_of_get? _ hvisibility (Visibility.read_name _),
      defaulted_of_get? _ htags (listOf_text _)]
    rfl

instance : LawfulItem Pin where
  names := ["id", "name", "date_created", "item_type", "url", "icon", "group", "application",
    "expire_date", "expiration_action", "fragment", "exec_in_background", "last_opened",
    "times_opened", "average_execution_time", "tags", "notes", "tooltip", "visibility", "aliases"]
  keys_fields _ := rfl
  nodup_names := by decide
  unreserved := by decide
  get?_id _ := rfl
  read_fields fresh p data h := by
    simp only [Item.fields, Pin.fields, List.forall_mem_cons] at h
    obtain ⟨hid, hname, hcreated, hkind, htarget, hicon, hgroup, happlication, hexpires, haction,
      hfragment, hbackground, hopened, htimes, haverage, htags, hnotes, htooltip, hvisibility,
      haliases, -⟩ := h
    simp only [Item.read, Pin.read, recordOf, defaulted_of_get? _ hid (text_str _),
      defaulted_of_get? _ hname (text_str _), defaulted_of_get? _ hcreated (moment_toJson _),
      defaulted_of_get? _ hkind (ItemKind.read_name _), defaulted_of_get? _ htarget (text_str _),
      defaulted_of_get? _ hicon (text_str _), defaulted_of_get? _ hgroup (text_str _),
      defaulted_of_get? _ happlication (text_str _),
      defaulted_of_get? _ hexpires (nullable_moment _),
      defaulted_of_get? _ haction (text_str _), defaulted_of_get? _ hfragment (truth_bool _),
      defaulted_of_get? _ hbackground (truth_bool _),
      defaulted_of_get? _ hopened (nullable_moment _), defaulted_of_get? _ htimes (whole_int _),
      defaulted_of_get? _ haverage (whole_int _), defaulted_of_get? _ htags (listOf_text _),
      defaulted_of_get? _ hnotes (text_str _), defaulted_of_get? _ htooltip (text_str _),
      defaulted_of_get? _ hvisibility (Visibility.read_name _),
      defaulted_of_get? _ haliases (listOf_text _)]
    rfl

end Pinboard
