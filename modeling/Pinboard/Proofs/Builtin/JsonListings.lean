import Pinboard.Proofs.Builtin.Listings
import Pinboard.Proofs.Item.Data
import Pinboard.Proofs.Json.Escaping

/-!
# Listings in JSON

The markers in a listing are replaced after it was written as JSON. Each item has keys without
braces and no object in a field, so all markers lie inside the strings of the items, and what is
read from the listing is the items' data with every string escaped. A pin with a number of more
digits than are written has no JSON, and a listing with such a pin fails.
-/
namespace Pinboard

open Markup

/-! ## Values that can be written -/

namespace Json

lemma allPrintable_iff {items : List Json} :
    allPrintable items = true ↔ ∀ v ∈ items, v.isPrintable = true := by
  induction items with
  | nil => simp [allPrintable]
  | cons v items ih => rw [allPrintable, Bool.and_eq_true, ih, List.forall_mem_cons]

lemma fieldsPrintable_iff {fields : List (String × Json)} :
    fieldsPrintable fields = true ↔ ∀ f ∈ fields, f.2.isPrintable = true := by
  induction fields with
  | nil => simp [fieldsPrintable]
  | cons f fields ih => rw [fieldsPrintable, Bool.and_eq_true, ih, List.forall_mem_cons]

@[simp] lemma isPrintable_int (i : Int) :
    (int i).isPrintable = true ↔ (Number.digits i.natAbs).length ≤ Number.digitLimit := by
  rw [isPrintable, decide_eq_true_eq]

@[simp] lemma isPrintable_bool (b : Bool) : (bool b).isPrintable = true := rfl

@[simp] lemma isPrintable_str (s : String) : (str s).isPrintable = true := rfl

@[simp] lemma isPrintable_arr (items : List Json) :
    (arr items).isPrintable = true ↔ ∀ v ∈ items, v.isPrintable = true := by
  rw [isPrintable, allPrintable_iff]

@[simp] lemma isPrintable_obj (fields : List (String × Json)) :
    (obj fields).isPrintable = true ↔ ∀ f ∈ fields, f.2.isPrintable = true := by
  rw [isPrintable, fieldsPrintable_iff]

@[simp] lemma isPrintable_ofStrings (items : List String) :
    (ofStrings items).isPrintable = true := by
  simp [ofStrings]

@[simp] lemma isPrintable_ofOption {α : Type} (f : α → Json) (o : Option α) :
    (ofOption f o).isPrintable = true ↔ ∀ a ∈ o, (f a).isPrintable = true := by
  cases o with
  | none => simp [ofOption, isPrintable]
  | some a => simp [ofOption]

/-! ## Data of items -/

/-- What a field of an item holds. -/
inductive IsField : Json → Prop
  | null : IsField .null
  | bool (b : Bool) : IsField (.bool b)
  | int (i : Int) : IsField (.int i)
  | str (s : String) : IsField (.str s)
  | strings (items : List String) : IsField (ofStrings items)

lemma isField_ofOption {α : Type} {f : α → Json} (h : ∀ a, IsField (f a)) (o : Option α) :
    IsField (ofOption f o) := by
  cases o with
  | none => exact .null
  | some a => exact h a

lemma IsField.fields?_eq {v : Json} (h : IsField v) : v.fields? = none := by cases h <;> rfl

lemma IsField.bracesApart {v : Json} (h : IsField v) : BracesApart v := by
  cases h with
  | null => exact .null
  | bool b => exact .bool b
  | int i => exact .int i
  | str s => exact .str s
  | strings items => exact .arr (List.forall_mem_map.mpr fun s _ => .str s)

lemma IsField.isPlain {v : Json} (h : IsField v) (hprintable : v.isPrintable = true) :
    v.IsPlain := by
  cases h with
  | null => exact .null
  | bool b => exact .bool b
  | int i => exact .int ((isPrintable_int i).mp hprintable)
  | str s => exact .str s
  | strings items => exact .arr (List.forall_mem_map.mpr fun s _ => .str s)

/-- A text without markers that is the JSON of a value with its strings escaped. -/
structure Shows (opening closing : String) (v : Json) (text : String) : Prop where
  markerFree : MarkerFree text.toList
  eq_print : text = (v.mapStrings (escapeWith opening closing)).print

variable {opening closing : String} {v : Json}

lemma Shows.read_eq {text : String} (h : Shows opening closing v text) (hplain : v.IsPlain) :
    read text = .ok (v.mapStrings (escapeWith opening closing)) := by
  rw [h.eq_print, hplain.mapStrings.read_print]

lemma BracesApart.shows (h : BracesApart v) (hopening : IsWritable opening)
    (hclosing : IsWritable closing) :
    Shows opening closing v (escapeWith opening closing v.print) where
  markerFree := (escapes hopening.toIsSubstitute hclosing.toIsSubstitute).markerFree _
  eq_print := h.escapeWith_print hopening hclosing

lemma isWritable_brackets : IsWritable "[[" ∧ IsWritable "]]" := by
  constructor <;> exact ⟨⟨by decide, by decide, by decide⟩, by decide⟩

lemma isWritable_tripleBrackets : IsWritable "[[[" ∧ IsWritable "]]]" := by
  constructor <;> exact ⟨⟨by decide, by decide, by decide⟩, by decide⟩

end Json

/-- Items whose data has no markers in its keys and nothing deep in its fields. -/
class FlatItem (α : Type) [Item α] [LawfulItem α] : Prop where
  markerFree_names : ∀ key ∈ LawfulItem.names α, MarkerFree key.toList
  isField : ∀ (item : α), ∀ f ∈ Item.fields item, f.2.IsField

instance : FlatItem Pin where
  markerFree_names := by decide
  isField p := by
    have hmoments := fun t : Option Time.Timestamp =>
      Json.isField_ofOption (fun t : Time.Timestamp => .str t.stored) t
    simp only [Item.fields, Pin.fields, List.forall_mem_cons]
    refine ⟨.str _, .str _, .str _, .str _, .str _, .str _, .str _, .str _, hmoments _, .str _,
      .bool _, .bool _, hmoments _, .int _, .int _, .strings _, .str _, .str _, .str _,
      .strings _, by simp⟩

instance : FlatItem Group where
  markerFree_names := by decide
  isField g := by
    simp only [Item.fields, Group.fields, List.forall_mem_cons]
    exact ⟨.str _, .str _, .str _, .str _, .str _, Json.isField_ofOption .str _, .str _, .str _,
      .strings _, by simp⟩

namespace Item

variable {α : Type} [Item α] [LawfulItem α] [FlatItem α]

lemma bracesApart (item : α) : (toJson item).BracesApart := by
  have hfields := FlatItem.isField item
  refine .obj (fun f hf => FlatItem.markerFree_names (α := α) f.1 ?_)
    (fun f hf => (hfields f hf).fields?_eq) fun f hf => (hfields f hf).bracesApart
  rw [← LawfulItem.keys_fields item]
  exact List.mem_map_of_mem hf

lemma isPlain {item : α} (h : (toJson item).isPrintable = true) : (toJson item).IsPlain := by
  have hkeys : (Item.fields item).keys.Nodup :=
    LawfulItem.keys_fields item ▸ LawfulItem.nodup_names
  have hfields := (Json.isPrintable_obj (Item.fields item)).mp h
  exact .obj hkeys fun f hf => (FlatItem.isField item f hf).isPlain (hfields f hf)

lemma bracesApart_list (items : List α) : (Json.arr (items.map toJson)).BracesApart :=
  .arr (List.forall_mem_map.mpr fun item _ => bracesApart item)

lemma isPlain_list {items : List α} (h : (Json.arr (items.map toJson)).isPrintable = true) :
    (Json.arr (items.map toJson)).IsPlain := by
  rw [Json.isPrintable_arr, List.forall_mem_map] at h
  exact .arr (List.forall_mem_map.mpr fun item hitem => isPlain (h item hitem))

end Item

/-- The numbers of a pin have no more digits than are written. -/
def Pin.HasShortNumbers (p : Pin) : Prop :=
  (Number.digits p.timesOpened.natAbs).length ≤ Number.digitLimit ∧
    (Number.digits p.averageTime.natAbs).length ≤ Number.digitLimit

lemma Pin.isPrintable_iff (p : Pin) :
    (Item.toJson p).isPrintable = true ↔ p.HasShortNumbers := by
  simp [Item.toJson, Item.fields, Pin.fields, Time.Timestamp.toJson, Pin.HasShortNumbers]

/-- A group has no numbers. -/
lemma Group.isPrintable (g : Group) : (Item.toJson g).isPrintable = true := by
  simp [Item.toJson, Item.fields, Group.fields, Time.Timestamp.toJson]

namespace Builtin

variable {σ : Type} (services : Services σ)

lemma bracesApart_pinData (p : Pin) : (pinData p).BracesApart := by
  have hkeys : ∀ key ∈ ["groups", "pins"], MarkerFree key.toList := by decide
  have hpins : (Json.arr [Item.toJson p]).BracesApart := Item.bracesApart_list [p]
  have hgroups : (Json.arr []).BracesApart := .arr (by simp)
  simp only [List.forall_mem_cons] at hkeys
  refine .obj ?_ ?_ ?_ <;> simp only [List.forall_mem_cons, List.not_mem_nil, false_imp_iff,
    implies_true, and_true]
  · exact ⟨hkeys.1, hkeys.2.1⟩
  · exact ⟨rfl, rfl⟩
  · exact ⟨hgroups, hpins⟩

lemma isPrintable_pinData (p : Pin) : (pinData p).isPrintable = true ↔ p.HasShortNumbers := by
  simp [pinData, Pin.isPrintable_iff]

lemma isPlain_pinData {p : Pin} (h : (pinData p).isPrintable = true) : (pinData p).IsPlain := by
  have hitem : (Item.toJson p).IsPlain :=
    Item.isPlain ((Pin.isPrintable_iff p).mpr ((isPrintable_pinData p).mp h))
  simp [pinData, hitem]

/-! ## Replies in JSON -/

/-- What a directive replies that gives a value in JSON with its markers replaced. If all numbers in
the value can be written, the text has no markers and is the JSON of the value with the same
replacements made in each string, and it is read as that. If one cannot, the directive fails and its
reply is empty. -/
structure RepliesJson (d : Directive σ) (opening closing : String) (v : Json) (m : Occurrence)
    (context : Context) (reentry : Option (Reentry σ)) (w w' : σ) : Prop where
  shows : v.isPrintable = true → ∃ reply,
    (d.handler m context reentry).run.run w = (.ok reply, w') ∧
    (d.run m context reentry).run w = (reply, w') ∧
    Json.Shows opening closing v reply.text ∧
    Json.read reply.text = .ok (v.mapStrings (escapeWith opening closing))
  fails : v.isPrintable = false →
    (d.handler m context reentry).run.run w = (.error .numberTooLong, w') ∧
    (d.run m context reentry).run w = (Reply.nothing, w')

variable {services} {m : Occurrence} {w w' : σ}

/-- A handler that replaces the markers of a written value, and nothing else. -/
lemma RepliesJson.of_handler {d : Directive σ} {opening closing : String} {v : Json}
    {context : Context} {reentry : Option (Reentry σ)} (reply : String → Reply)
    (hhandler : (d.handler m context reentry).run.run w =
      (written v >>= fun text => pure (reply (escapeWith opening closing text)) :
        Action σ Reply).run.run w')
    (hreply : ∀ text, (reply text).text = text) (hopening : Json.IsWritable opening)
    (hclosing : Json.IsWritable closing) (hapart : v.BracesApart)
    (hplain : v.isPrintable = true → v.IsPlain) :
    RepliesJson d opening closing v m context reentry w w' where
  shows hprintable := by
    have hshows := hapart.shows hopening hclosing
    have hrun : (d.handler m context reentry).run.run w =
        (.ok (reply (escapeWith opening closing v.print)), w') := by
      rw [hhandler, written_eq_pure hprintable]
      rfl
    refine ⟨_, hrun, Action.run_orElse_ok hrun, ?_⟩
    rw [hreply]
    exact ⟨hshows, hshows.read_eq (hplain hprintable)⟩
  fails hprintable := by
    have hrun : (d.handler m context reentry).run.run w = (.error .numberTooLong, w') := by
      rw [hhandler, written_eq_throw hprintable]
      rfl
    exact ⟨hrun, Action.run_orElse_error hrun⟩

lemma repliesJson_listing {name description : String} {α : Type} [Item α] [LawfulItem α]
    [FlatItem α] {read : Occurrence → Action σ (List α)} {items : List α}
    (h : (read m).run.run w = (.ok items, w')) (context : Context) (reentry : Option (Reentry σ)) :
    RepliesJson (listing name description fun m => do
      written (Json.arr ((← read m).map Item.toJson))) "[[" "]]" (.arr (items.map Item.toJson))
      m context reentry w w' := by
  refine .of_handler (rememberedUnlessShaped m name) ?_ (fun _ => rfl) Json.isWritable_brackets.1
    Json.isWritable_brackets.2 (Item.bracesApart_list items) Item.isPlain_list
  change ((read m >>= fun items => written (Json.arr (items.map Item.toJson))) >>= fun data =>
    pure (rememberedUnlessShaped m name (escape data))).run.run w = _
  rw [bind_assoc, Action.run_bind_ok h]
  rfl

lemma repliesJson_pinJSON {context : Context} {p stored : Pin} (hpin : context.pin = some p)
    {ps : List Pin} (h : services.pins.list.run.run w = (.ok ps, w'))
    (hstored : stored = (ps.find? fun q => q.id == p.id).getD p) (m : Occurrence)
    (reentry : Option (Reentry σ)) :
    RepliesJson (pinJSON services) "[[[" "]]]" (pinData stored) m context reentry w w' := by
  subst hstored
  refine .of_handler Reply.ofText ?_ (fun _ => rfl) Json.isWritable_tripleBrackets.1
    Json.isWritable_tripleBrackets.2 (bracesApart_pinData _) isPlain_pinData
  simp only [pinJSON, directive, hpin]
  rw [Action.run_bind_ok h]

/-- The listings in JSON stay JSON wherever the numbers of the pins have no more digits than are
written, and fail where one has more. Whatever else is stored, their texts have no markers, are the
JSON of the items' data with the same replacements made in each string and are read as that. The
replacements leave no marker in any text, do nothing more the second time, and nothing to a text
without markers. -/
theorem jsonListings_escaped (services : Services σ) (m : Occurrence) (context : Context)
    (reentry : Option (Reentry σ)) (w w' : σ) :
    (∀ ps, (listedPins services m).run.run w = (.ok ps, w') →
      RepliesJson (pins services) "[[" "]]" (.arr (ps.map Item.toJson)) m context reentry w w' ∧
      ((Json.arr (ps.map Item.toJson)).isPrintable = true ↔ ∀ p ∈ ps, p.HasShortNumbers)) ∧
    (∀ gs, (listedGroups services m).run.run w = (.ok gs, w') →
      RepliesJson (groups services) "[[" "]]" (.arr (gs.map Item.toJson)) m context reentry w w' ∧
      (Json.arr (gs.map Item.toJson)).isPrintable = true) ∧
    (∀ p ps stored, context.pin = some p → services.pins.list.run.run w = (.ok ps, w') →
      stored = (ps.find? fun q => q.id == p.id).getD p →
      RepliesJson (pinJSON services) "[[[" "]]]" (pinData stored) m context reentry w w' ∧
      ((pinData stored).isPrintable = true ↔ stored.HasShortNumbers)) ∧
    ∀ opening closing : String, IsSubstitute opening.toList → IsSubstitute closing.toList →
      Escapes opening closing := by
  refine ⟨fun ps hps => ⟨repliesJson_listing hps context reentry, ?_⟩,
    fun gs hgs => ⟨repliesJson_listing hgs context reentry, ?_⟩,
    fun p ps stored hpin hps hstored =>
      ⟨repliesJson_pinJSON hpin hps hstored m reentry, isPrintable_pinData stored⟩,
    fun opening closing => escapes⟩
  · simp [Pin.isPrintable_iff]
  · simp [Group.isPrintable]

/-! ## A pin made of braces -/

/-- A pin with odd runs of braces between quotes and backslashes. -/
def bracedPin : Pin := .new ⟨"p", Journal.noon⟩ "\x7b\x7b\x7b\"" "\\\x7d\x7dé\x7d" noGroup

/-- Services with one stored pin. -/
def servicesWith (p : Pin) : Services Journal :=
  { Journal.servicesAt Journal.noon with pins := { Journal.noItems with list := pure [p] } }

/-- The whole list. -/
def pinsAt : Occurrence := ⟨"\x7b\x7bpins\x7d\x7d", 0, 8, "pins", [], [], none, none⟩

def bracedContext : Context := { bareContext with pin := some bracedPin }

/-- The markers in the name and the target become brackets, the odd braces stay. -/
theorem jsonListings_escaped_bracedPin :
    (listedPins (servicesWith bracedPin) pinsAt).run.run [] = (.ok [bracedPin], []) ∧
    (listedGroups (servicesWith bracedPin) pinsAt).run.run [] = (.ok [], []) ∧
    bracedPin.HasShortNumbers ∧
    (∃ reply, ((pins (servicesWith bracedPin)).run pinsAt bracedContext none).run [] =
      (reply, []) ∧
      Json.read reply.text = .ok (.arr [Item.toJson
        { bracedPin with name := "[[\x7b\"", target := "\\]]é\x7d" }])) ∧
    (∃ reply, ((groups (servicesWith bracedPin)).run pinsAt bracedContext none).run [] =
      (reply, []) ∧ Json.read reply.text = .ok (.arr [])) ∧
    ∃ reply, ((pinJSON (servicesWith bracedPin)).run pinsAt bracedContext none).run [] =
      (reply, []) ∧
      Json.read reply.text = .ok (pinData
        { bracedPin with name := "[[[\x7b\"", target := "\\]]]é\x7d" }) := by
  have hpins : (listedPins (servicesWith bracedPin) pinsAt).run.run [] =
    (.ok [bracedPin], []) := rfl
  have hgroups : (listedGroups (servicesWith bracedPin) pinsAt).run.run [] = (.ok [], []) := rfl
  have hnumbers : bracedPin.HasShortNumbers := ⟨by decide, by decide⟩
  obtain ⟨hall, hnone, hone, -⟩ :=
    jsonListings_escaped (servicesWith bracedPin) pinsAt bracedContext none [] []
  refine ⟨hpins, hgroups, hnumbers, ?_, ?_, ?_⟩
  · obtain ⟨hreplies, hshort⟩ := hall _ hpins
    obtain ⟨reply, -, hrun, -, hread⟩ :=
      hreplies.shows (hshort.mpr (List.forall_mem_singleton.mpr hnumbers))
    exact ⟨reply, hrun, hread.trans rfl⟩
  · obtain ⟨hreplies, hshort⟩ := hnone _ hgroups
    obtain ⟨reply, -, hrun, -, hread⟩ := hreplies.shows hshort
    exact ⟨reply, hrun, hread.trans rfl⟩
  · obtain ⟨hreplies, hshort⟩ := hone bracedPin [bracedPin] bracedPin rfl rfl rfl
    obtain ⟨reply, -, hrun, -, hread⟩ := hreplies.shows (hshort.mpr hnumbers)
    exact ⟨reply, hrun, hread.trans rfl⟩

/-! ## A pin that was opened too often -/

def usedPin (times : Nat) : Pin :=
  { Pin.new ⟨"p", Journal.noon⟩ "p" "" noGroup with timesOpened := times }

lemma hasShortNumbers_usedPin_iff (times : Nat) :
    (usedPin times).HasShortNumbers ↔ times < 10 ^ Number.digitLimit := by
  have hdigits : (Number.digits times).length ≤ Number.digitLimit ↔
      times < 10 ^ Number.digitLimit := Nat.length_toDigits_le_iff (by decide) (by decide)
  have hnever : (Number.digits 0).length ≤ Number.digitLimit := by decide
  rw [← hdigits]
  exact ⟨fun h => h.1, fun h => ⟨h, hnever⟩⟩

/-- A pin that was opened once more than can be written. -/
def wornPin : Pin := usedPin (10 ^ Number.digitLimit)

lemma not_hasShortNumbers_wornPin : ¬wornPin.HasShortNumbers :=
  fun h => lt_irrefl _ ((hasShortNumbers_usedPin_iff _).mp h)

def wornContext : Context := { bareContext with pin := some wornPin }

/-- The pin itself. -/
def pinJSONAt : Occurrence := ⟨"\x7b\x7bpinJSON\x7d\x7d", 0, 11, "pinJSON", [], [], none, none⟩

/-- Before the last use all could be written. After it neither listing gives a text that can be
read. -/
theorem wornPin_unwritten :
    (usedPin (10 ^ Number.digitLimit - 1)).HasShortNumbers ∧
    (listedPins (servicesWith wornPin) pinsAt).run.run [] = (.ok [wornPin], []) ∧
    ((pins (servicesWith wornPin)).run pinsAt bareContext none).run [] = (Reply.nothing, []) ∧
    ((pinJSON (servicesWith wornPin)).run pinJSONAt wornContext none).run [] =
      (Reply.nothing, []) ∧
    ∀ v, Json.read Reply.nothing.text ≠ .ok v := by
  have hbefore : 10 ^ Number.digitLimit - 1 < 10 ^ Number.digitLimit :=
    Nat.sub_lt (Nat.pow_pos (by decide)) Nat.one_pos
  have hlisted : (listedPins (servicesWith wornPin) pinsAt).run.run [] = (.ok [wornPin], []) := rfl
  have hall : (Json.arr ([wornPin].map Item.toJson)).isPrintable = false :=
    Bool.eq_false_iff.mpr fun h =>
      not_hasShortNumbers_wornPin (by simpa [Pin.isPrintable_iff] using h)
  have hone : (pinData wornPin).isPrintable = false :=
    Bool.eq_false_iff.mpr fun h => not_hasShortNumbers_wornPin ((isPrintable_pinData _).mp h)
  have hcontext : wornContext.pin = some wornPin := rfl
  have hstored : (servicesWith wornPin).pins.list.run.run [] = (.ok [wornPin], []) := rfl
  have hfound : wornPin = ([wornPin].find? fun q => q.id == wornPin.id).getD wornPin := by simp
  have hreplies := repliesJson_pinJSON hcontext hstored hfound pinJSONAt none
  exact ⟨(hasShortNumbers_usedPin_iff _).mpr hbefore, hlisted,
    ((repliesJson_listing hlisted bareContext none).fails hall).2, (hreplies.fails hone).2,
    fun v h => by cases h⟩

end Builtin

end Pinboard
