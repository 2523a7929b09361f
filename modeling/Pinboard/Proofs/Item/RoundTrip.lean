import Pinboard.Proofs.Schedule.Records
import Pinboard.Proofs.Store.Documents

/-!
# Items that are written and read back

Nothing is lost where an item is kept as data. The fields are read back one by one: texts, truths
and whole numbers as they are, words for kinds and visibilities by their names, and a moment from
its text, with all its microseconds and with its offset or without one.
-/
namespace Pinboard

open Record Time

namespace Record

variable {α : Type} {read : Reader α} {write : α → Json} {a : α}

/-- A value is read from the data it was written as, and what was read is written as the same
data. -/
def ReadsBack (read : Reader α) (write : α → Json) (a : α) : Prop :=
  read (write a) = .ok a ∧ (read (write a)).map write = .ok (write a)

lemma ReadsBack.of_read (h : read (write a) = .ok a) : ReadsBack read write a := by
  refine ⟨h, ?_⟩
  rw [h]
  rfl

end Record

namespace Item

variable {α : Type} [Item α] [LawfulItem α]

lemma read_toJson (fresh : Fresh) (item : α) : Item.read fresh (toJson item) = .ok item := by
  refine LawfulItem.read_fields fresh item (fields item) fun f hf => ?_
  have hnames : (fields item).keys.Nodup := LawfulItem.keys_fields item ▸ LawfulItem.nodup_names
  exact Fields.get?_of_mem hnames hf

variable (α) in
omit [LawfulItem α] in
/-- Items of a kind lose nothing as data, whatever a new item would take by default, nor as
documents, wherever these stand. -/
structure Kept : Prop where
  data : ∀ (fresh : Fresh) (item : α), ReadsBack (Item.read fresh) toJson item
  document : ∀ {σ : Type} (now : Timestamp) (position : Number.Numeric) (item : α),
    (Documents.toItem now (Documents.ofItem position item) : Action σ α) = pure item

lemma kept : Kept α where
  data fresh item := .of_read (read_toJson fresh item)
  document now position item := Documents.toItem_ofItem now position item

end Item

/-- Pins, groups, tags and deferred texts are kept as they are, and so is every moment in them. -/
theorem written_items_read_back :
    Item.Kept Pin ∧ Item.Kept Group ∧ Item.Kept Tag ∧
    (∀ d : Deferred, ReadsBack Deferred.read Deferred.toJson d) ∧
    ∀ t : Timestamp, ReadsBack moment Timestamp.toJson t :=
  ⟨Item.kept, Item.kept, Item.kept, fun d => .of_read d.read_toJson,
    fun t => .of_read (moment_toJson t)⟩

/-- An early moment on a clock behind UTC. -/
example :
    Timestamp.stored ⟨⟨1, 2, 28, by decide⟩, ⟨23, 59, 0, 120, by decide⟩, some ⟨-210, by decide⟩⟩ =
      "0001-02-28T23:59:00.000120-03:30" := by
  rfl

end Pinboard
